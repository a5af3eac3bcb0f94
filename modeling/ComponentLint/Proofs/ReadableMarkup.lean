import ComponentLint.Markup.Scanner
import ComponentLint.Proofs.Registrations

/-!
Texts that can be read as documents.

Reading fails at two things only: at a marked section that it cannot make sense of, and at a decimal
reference with more digits than a number is read with. Every piece of a text that is looked at for
references stands in the text as it is, so a text without either of them is read to its end.
-/

namespace ComponentLint.Markup

open Std.Do

set_option mvcgen.warning false

/-! ### Plain texts -/

/-- A decimal reference with more digits than are read stands in a text. -/
def HasLongReference (s : List Char) : Prop :=
  ∃ ds : List Char, ds.all Text.isAsciiDigit ∧ Number.digitLimit < ds.length ∧
    '&' :: '#' :: ds <:+: s

/-- Neither a long reference nor the opening of a marked section stands in a text. -/
structure IsPlain (s : List Char) : Prop where
  noSection : ¬['<', '!', '['] <:+: s
  noReference : ¬HasLongReference s

variable {s t : List Char}

lemma HasLongReference.mono (h : HasLongReference s) (hst : s <:+: t) : HasLongReference t := by
  obtain ⟨ds, hdigits, hlong, hds⟩ := h
  exact ⟨ds, hdigits, hlong, hds.trans hst⟩

lemma isPlain_of_not_mem (hsection : ¬['<', '!', '['] <:+: s) (hmark : '&' ∉ s) : IsPlain s where
  noSection := hsection
  noReference := fun ⟨_, _, _, hds⟩ => hmark (hds.subset List.mem_cons_self)

lemma IsPlain.of_infix (h : IsPlain t) (hst : s <:+: t) : IsPlain s where
  noSection hs := h.noSection (hs.trans hst)
  noReference hs := h.noReference (hs.mono hst)

/-! ### References -/

namespace Reference

lemma decimal_gives {rest : List Char} (h : ¬HasLongReference ('&' :: '#' :: rest)) :
    Gives (decimal rest) fun _ => True := by
  have hshort : (rest.takeWhile Text.isAsciiDigit).length ≤ Number.digitLimit := by
    by_contra hlong
    refine h ⟨_, List.all_takeWhile, not_le.1 hlong, List.IsPrefix.isInfix ?_⟩
    exact List.cons_prefix_cons.2 ⟨rfl, List.cons_prefix_cons.2 ⟨rfl, List.takeWhile_prefix _⟩⟩
  unfold decimal
  simp only [if_pos hshort]
  exact fun _ => trivial

@[spec] lemma reference_gives (h : ¬HasLongReference ('&' :: s)) :
    Gives (reference s) fun _ => True := by
  unfold reference
  split
  · split_ifs
    · exact (decimal_gives h).map
    · exact fun _ => trivial
  · exact fun _ => trivial

lemma resolveFrom_gives (skip : ℕ) (h : ¬HasLongReference s) :
    Gives (resolveFrom skip s) fun _ => True := by
  induction s generalizing skip with
  | nil => exact fun _ => trivial
  | cons c cs ih =>
    have hrest (skip : ℕ) := ih skip fun hcs => h (hcs.mono (List.suffix_cons c cs).isInfix)
    cases skip with
    | succ skip => exact hrest skip
    | zero => mvcgen [resolveFrom, hrest] with grind

@[spec] lemma resolve_gives (h : ¬HasLongReference s) : Gives (resolve s) fun _ => True :=
  resolveFrom_gives 0 h

end Reference

/-! ### Tags -/

namespace Scanner

lemma isInfix_value? {v : List Char} {n : ℕ} (h : value? s = some (v, n)) : v <:+: s := by
  unfold value? at h
  split at h
  · rename_i q rest
    dsimp only at h
    split_ifs at h <;> cases h
    · exact (List.takeWhile_prefix _).isInfix.trans (List.suffix_cons q rest).isInfix
    · exact (List.takeWhile_prefix _).isInfix
  · cases h
    exact List.nil_infix

lemma stripLeft_suffix (s : List Char) : Text.stripLeft s <:+ s := List.dropWhile_suffix _

lemma skipSeparators_suffix (s : List Char) : skipSeparators s <:+ s := by
  fun_induction skipSeparators s with
  | case1 => exact List.suffix_rfl
  | case2 cs _ => exact List.suffix_rfl
  | case3 cs _ ih => exact ih.trans (List.suffix_cons _ _)
  | case4 c cs _ _ ih => exact ih.trans (List.suffix_cons _ _)
  | case5 c cs _ _ => exact List.suffix_rfl

/-- The value of an attribute stands in the text, and the text goes on after it. -/
lemma isInfix_assignment? {v after : List Char} (h : assignment? s = some (v, after)) :
    v <:+: s ∧ after <:+ s := by
  have hdrop (n : ℕ) : (Text.stripLeft s).drop n <:+ s :=
    (List.drop_suffix n _).trans (stripLeft_suffix s)
  unfold assignment? at h
  dsimp only at h
  split at h
  · cases h
  rw [List.drop_drop] at h
  split at h
  · rename_i w n hvalue
    cases h
    exact ⟨(isInfix_value? hvalue).trans (hdrop _).isInfix, (List.drop_suffix n _).trans (hdrop _)⟩
  · split_ifs at h <;> cases h
    · exact ⟨List.nil_infix, hdrop _⟩
    · exact ⟨(List.takeWhile_prefix _).isInfix.trans (hdrop _).isInfix,
        (List.drop_suffix _ _).trans (hdrop _)⟩

lemma isInfix_assigned (s : List Char) :
    (∀ v ∈ (assigned s).1, v <:+: s) ∧ (assigned s).2 <:+ s := by
  unfold assigned
  split
  · rename_i v after h
    obtain ⟨hv, hafter⟩ := isInfix_assignment? h
    exact ⟨by rintro _ ⟨⟩; exact hv, hafter⟩
  · exact ⟨nofun, List.suffix_rfl⟩

/-- The values of attributes stand in the text, and the text goes on after them. -/
lemma isInfix_attributes (fuel : ℕ) (before : Char) (s : List Char) :
    (∀ a ∈ (attributes fuel before s).1, ∀ v ∈ a.value, v <:+: s) ∧
      (attributes fuel before s).2 <:+ s := by
  fun_induction attributes fuel before s with
  | case1 | case2 | case3 => exact ⟨List.forall_mem_nil _, List.suffix_rfl⟩
  | case4 fuel before c rest _ more name afterName value after hassigned next others final
      consumed last hothers ih =>
    have hname : afterName <:+ c :: rest := (List.drop_suffix _ _).trans (List.suffix_cons _ _)
    have hboth := isInfix_assigned afterName
    rw [hassigned] at hboth
    have hnext : next <:+ c :: rest :=
      (skipSeparators_suffix after).trans (hboth.2.trans hname)
    rw [hothers] at ih
    dsimp only [last, consumed] at hothers ⊢
    rw [hothers]
    refine ⟨List.forall_mem_cons.2 ⟨?_, ?_⟩, ih.2.trans hnext⟩
    · exact fun v hv => (hboth.1 v hv).trans hname.isInfix
    · exact fun a ha v hv => (ih.1 a ha v hv).trans hnext.isInfix

lemma resolve_gives {a : RawAttribute} (h : ∀ v ∈ a.value, ¬HasLongReference v) :
    Gives a.resolve fun _ => True := by
  unfold RawAttribute.resolve
  split
  · exact fun _ => trivial
  · rename_i v hv
    mvcgen
    exact h v hv

@[spec] lemma startTag_gives (h : ¬HasLongReference s) : Gives (startTag s) fun _ => True := by
  have hwritten (n : ℕ) (before : Char) : ∀ a ∈ (attributes s.length before
      (skipSeparators (s.drop n))).1, ∀ v ∈ a.value, ¬HasLongReference v := by
    intro a ha v hv hlong
    have hinner : skipSeparators (s.drop n) <:+ s :=
      (skipSeparators_suffix _).trans (List.drop_suffix n s)
    exact h (hlong.mono (((isInfix_attributes _ before _).1 a ha v hv).trans hinner.isInfix))
  mvcgen [startTag, resolve_gives]
  rename_i hattribute
  exact hwritten _ _ _ hattribute

@[spec] lemma unfinished_gives (h : ¬HasLongReference s) : Gives (unfinished s) fun _ => True := by
  mvcgen [unfinished]
  exact fun hlong => h (hlong.mono (List.take_prefix _ s).isInfix)

@[spec] lemma construct_gives (h : IsPlain s) : Gives (construct s) fun _ => True := by
  have hsection : "<![".toList.isPrefixOf s = false := by
    rw [Bool.eq_false_iff, ne_eq, List.isPrefixOf_iff_prefix]
    exact fun hs => h.noSection hs.isInfix
  have hreference := h.noReference
  unfold construct declaration
  generalize "<![".toList = opening at *
  simp only [hsection]
  mvcgen with grind

@[spec] lemma markup_gives (h : IsPlain s) : Gives (markup s) fun _ => True := by
  have hreference := h.noReference
  mvcgen [markup]

lemma scan_gives (fuel : ℕ) (raw : Option String) (l : Location) (h : IsPlain s) :
    Gives (scan fuel raw l s) fun _ => True := by
  induction fuel generalizing raw l s with
  | zero => exact fun _ => trivial
  | succ fuel ih =>
    cases s with
    | nil => exact fun _ => trivial
    | cons c cs =>
      have hdrop (n : ℕ) (raw : Option String) (l : Location) :=
        ih raw l (h.of_infix (List.drop_suffix n (c :: cs)).isInfix)
      have htext : ¬HasLongReference ((c :: cs).takeWhile (· ≠ '<')) := fun hlong =>
        h.noReference (hlong.mono (List.takeWhile_prefix _).isInfix)
      cases raw with
      | some element => mvcgen [scan, hdrop]
      | none => mvcgen [scan, hdrop]

end Scanner

/-- **A plain text can be read as a document.** -/
theorem exists_parse_of_isPlain {text : String} (h : IsPlain text.toList) (href : String) :
    ∃ d, Document.parse href text = .ok d := by
  obtain ⟨events, hscan, -⟩ :=
    (Scanner.scan_gives (text.toList.length + 1) none ⟨1, 0⟩ h).exists_ok
  exact ⟨.ofEvents href events, by rw [Document.parse, hscan]; rfl⟩

end ComponentLint.Markup
