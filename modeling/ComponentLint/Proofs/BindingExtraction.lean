import ComponentLint.Proofs.DelimiterRuns

/-!
What a text binds, against what its delimiters say.

The extraction looks for an opening with a closing after it on the same line. Delimiters that pair
up give an opening and a closing after it, but the two may stand on different lines. So a text with
a delimiter is reported as unbalanced or has its binding extracted, unless every binding in it is
broken over lines; such a text escapes both.
-/

namespace ComponentLint

/-! ### The last occurrence on a line -/

/-- A pattern is found on the first line of a text where the text starts with it, or behind a
character that is not the end of the line. -/
lemma Text.exists_on_line_cons_iff {pattern : List Char} {c : Char} {cs : List Char} :
    (∃ w v, c :: cs = w ++ (pattern ++ v) ∧ '\n' ∉ w) ↔
      pattern <+: c :: cs ∨ c ≠ '\n' ∧ ∃ w v, cs = w ++ (pattern ++ v) ∧ '\n' ∉ w := by
  constructor
  · rintro ⟨w, v, h, hw⟩
    cases w with
    | nil => exact Or.inl ⟨v, h.symm⟩
    | cons d w =>
      obtain ⟨rfl, hcs⟩ := List.cons.inj h
      rw [List.mem_cons, not_or] at hw
      exact Or.inr ⟨Ne.symm hw.1, w, v, hcs, hw.2⟩
  · rintro (⟨v, hv⟩ | ⟨hc, w, v, rfl, hw⟩)
    · exact ⟨[], v, hv.symm, List.not_mem_nil⟩
    · exact ⟨c :: w, v, rfl, by simpa [eq_comm] using ⟨hc, hw⟩⟩

lemma Text.isSome_beforeLast_iff (pattern s : List Char) (hp : pattern.head?.any (· ≠ '\n')) :
    (beforeLast pattern s).isSome ↔ ∃ w v, s = w ++ (pattern ++ v) ∧ '\n' ∉ w := by
  induction s with
  | nil =>
    have hne : pattern ≠ [] := by
      rintro rfl
      simp at hp
    simp [beforeLast, hne]
  | cons c cs ih =>
    rw [beforeLast, exists_on_line_cons_iff, ← ih]
    by_cases hc : c = '\n'
    · have hprefix : ¬pattern <+: c :: cs := by
        rintro ⟨v, hv⟩
        cases pattern with
        | nil => simp at hp
        | cons d pattern =>
          obtain rfl : d = c := (List.cons.inj hv).1
          simp [hc] at hp
      simp [hc, hc ▸ hprefix]
    · rw [if_neg hc]
      cases hrest : beforeLast pattern cs with
      | some r => simp [hc]
      | none => simp [List.isPrefixOf_iff_prefix]

/-- The last doubled character, where none of it follows. -/
lemma Text.beforeLast_doubled {c : Char} (hc : c ≠ '\n') {w v : List Char} (hw : '\n' ∉ w)
    (hv : c ∉ v) : beforeLast [c, c] (w ++ c :: c :: v) = some w := by
  induction w with
  | nil =>
    have hhead : v.head? ≠ some c := fun h => hv (List.mem_of_mem_head? h)
    have hrest : beforeLast [c, c] v = none := by
      rw [← Option.not_isSome_iff_eq_none, isSome_beforeLast_iff _ _ (by simpa using hc)]
      rintro ⟨w, v', rfl, -⟩
      simp at hv
    rw [List.nil_append, beforeLast, if_neg hc, beforeLast, if_neg hc, hrest]
    dsimp only
    rw [Binding.not_isPrefixOf_doubled_single hhead]
    simp [List.isPrefixOf]
  | cons d w ih =>
    simp only [List.mem_cons, not_or] at hw
    rw [List.cons_append, beforeLast, if_neg (Ne.symm hw.1), ih hw.2]

namespace Expression

variable {opening closing : Char}

/-- Every opening has a line end between it and every closing after it. -/
def Broken (opening closing : Char) (s : List Char) : Prop :=
  ∀ u w v : List Char, s = u ++ opening :: opening :: (w ++ closing :: closing :: v) → '\n' ∈ w

lemma broken_cons (c : Char) (cs : List Char) : Broken opening closing (c :: cs) ↔
    (∀ w v, c :: cs = opening :: opening :: (w ++ closing :: closing :: v) → '\n' ∈ w) ∧
      Broken opening closing cs := by
  constructor
  · intro h
    refine ⟨fun w v => h [] w v, ?_⟩
    rintro u w v rfl
    exact h (c :: u) w v rfl
  · rintro ⟨hhere, hrest⟩ u w v h
    cases u with
    | nil => exact hhere w v h
    | cons d u =>
      cases h
      exact hrest u w v rfl

/-- **Nothing is extracted exactly when every binding is broken over lines.** -/
lemma inside_eq_none_iff (hc : closing ≠ '\n') (s : List Char) :
    inside opening closing s = none ↔ Broken opening closing s := by
  induction s with
  | nil => simp [inside, Broken]
  | cons c cs ih =>
    rw [inside, broken_cons, ← ih]
    by_cases hprefix : [opening, opening].isPrefixOf (c :: cs)
    · obtain ⟨rest, hrest⟩ := List.isPrefixOf_iff_prefix.1 hprefix
      obtain ⟨rfl, rfl⟩ : opening = c ∧ opening :: rest = cs := by simpa using hrest
      have hlast := Text.isSome_beforeLast_iff [closing, closing] rest (by simpa using hc)
      rw [if_pos hprefix, List.drop_one, List.tail_cons]
      cases hbefore : Text.beforeLast [closing, closing] rest with
      | some r =>
        obtain ⟨w, v, rfl, hline⟩ := hlast.1 (by simp [hbefore])
        simp only [reduceCtorEq, false_iff, not_and]
        intro h
        exact absurd (h w v rfl) hline
      | none =>
        refine ⟨fun h => ⟨fun w v hw => ?_, h⟩, fun h => h.2⟩
        obtain rfl : rest = w ++ closing :: closing :: v := by simpa using hw
        by_contra hline
        have hsome := hlast.2 ⟨w, v, rfl, hline⟩
        rw [hbefore] at hsome
        cases hsome
    · rw [if_neg hprefix]
      refine ⟨fun h => ⟨fun w v hw => ?_, h⟩, fun h => h.2⟩
      rw [hw] at hprefix
      simp [List.isPrefixOf] at hprefix

/-- The first opening decides where what it binds starts. -/
lemma inside_of_beforeLast {u s r : List Char} (hu : opening ∉ u)
    (h : Text.beforeLast [closing, closing] s = some r) :
    inside opening closing (u ++ opening :: opening :: s) = some r := by
  induction u with
  | nil => simp [inside, List.isPrefixOf, h]
  | cons d u ih =>
    simp only [List.mem_cons, not_or] at hu
    rw [List.cons_append, inside, Binding.not_isPrefixOf_doubled (Ne.symm hu.1)]
    exact ih hu.2

lemma extract_eq_none_iff (text : String) : extract text = none ↔
    Broken '{' '}' text.toList ∧ Broken '[' ']' text.toList := by
  rw [← inside_eq_none_iff (by decide), ← inside_eq_none_iff (by decide)]
  cases h : inside '{' '}' text.toList <;> simp [extract, extractChars, h]

end Expression

namespace Binding

open Expression (Broken)

/-- Some opening or closing delimiter occurs. -/
def HasDelimiter (s : List Char) : Prop := ∃ d ∈ ['{', '}', '[', ']'], [d, d] <:+: s

section Pairs

variable {opening closing : Char}

/-- A delimiter in the text is found by the scan from left to right. -/
lemma delimiters_ne_nil {d : Char} (hd : d = opening ∨ d = closing) {s : List Char}
    (h : [d, d] <:+: s) : delimiters opening closing false s ≠ [] := by
  obtain ⟨u, v, rfl⟩ := h
  rw [List.append_assoc, List.cons_append, List.cons_append, List.nil_append]
  induction u with
  | nil => rcases hd with rfl | rfl <;> simp [delimiters, List.isPrefixOf, ite_eq_iff]
  | cons c u ih =>
    rw [List.cons_append, delimiters]
    split_ifs
    · simp
    · simp
    · exact ih

/-- The first delimiter found, and the text after it. -/
lemma exists_delimiter {b : Bool} {s : List Char} {ds : List Bool}
    (h : delimiters opening closing false s = b :: ds) :
    ∃ d u v, s = u ++ d :: d :: v ∧ d = (if b then opening else closing) ∧
      delimiters opening closing false v = ds := by
  induction s with
  | nil => simp [delimiters] at h
  | cons c cs ih =>
    rw [delimiters] at h
    split_ifs at h with ho hc
    · obtain ⟨v, hv⟩ := List.isPrefixOf_iff_prefix.1 ho
      obtain ⟨rfl, rfl⟩ : opening = c ∧ opening :: v = cs := by simpa using hv
      cases h
      exact ⟨opening, [], v, rfl, rfl, rfl⟩
    · obtain ⟨v, hv⟩ := List.isPrefixOf_iff_prefix.1 hc
      obtain ⟨rfl, rfl⟩ : closing = c ∧ closing :: v = cs := by simpa using hv
      cases h
      exact ⟨closing, [], v, rfl, rfl, rfl⟩
    · obtain ⟨d, u, v, rfl, hd, hv⟩ := ih h
      exact ⟨d, c :: u, v, rfl, hd, hv⟩

/-- Delimiters that alternate bind something, if there are any. -/
lemma exists_binding {s : List Char} (halt : isUnpaired opening closing s = false)
    (hsome : delimiters opening closing false s ≠ []) :
    ∃ u w v, s = u ++ opening :: opening :: (w ++ closing :: closing :: v) := by
  rw [isUnpaired, Bool.not_eq_false'] at halt
  cases hds : delimiters opening closing false s with
  | nil => exact absurd hds hsome
  | cons first rest =>
    cases first with
    | false => simp [hds, alternates] at halt
    | true =>
      cases rest with
      | nil => simp [hds, alternates] at halt
      | cons second ds =>
        cases second with
        | true => simp [hds, alternates] at halt
        | false =>
          obtain ⟨d, u, rest, rfl, hd, hrest⟩ := exists_delimiter hds
          obtain ⟨e, w, v, rfl, he, -⟩ := exists_delimiter hrest
          exact ⟨u, w, v, by simp [hd, he]⟩

lemma not_broken {d : Char} (hd : d = opening ∨ d = closing) {s : List Char} (h : [d, d] <:+: s)
    (halt : isUnpaired opening closing s = false) (hline : '\n' ∉ s) :
    ¬Broken opening closing s := by
  intro hbroken
  obtain ⟨u, w, v, rfl⟩ := exists_binding halt (delimiters_ne_nil hd h)
  have := hbroken u w v rfl
  simp [this] at hline

end Pairs

/-- On one line, delimiters that pair up bind something. -/
lemma extract_ne_none {text : String} (h : HasDelimiter text.toList)
    (hbalanced : isUnbalanced text = false) (hline : '\n' ∉ text.toList) :
    Expression.extract text ≠ none := by
  simp only [isUnbalanced, isUnbalancedChars, Bool.or_eq_false_iff] at hbalanced
  obtain ⟨⟨-, hcurly⟩, hsquare⟩ := hbalanced
  obtain ⟨d, hd, hinfix⟩ := h
  rw [Ne, Expression.extract_eq_none_iff]
  rintro ⟨hbroken, hbroken'⟩
  simp only [List.mem_cons, List.not_mem_nil, or_false] at hd
  rcases hd with rfl | rfl | rfl | rfl
  · exact not_broken (Or.inl rfl) hinfix hcurly hline hbroken
  · exact not_broken (Or.inr rfl) hinfix hcurly hline hbroken
  · exact not_broken (Or.inl rfl) hinfix hsquare hline hbroken'
  · exact not_broken (Or.inr rfl) hinfix hsquare hline hbroken'

/-- **A text with a delimiter is reported or extracted unless its delimiters pair up and all its
bindings are broken over lines**; on one line none escapes. -/
theorem reported_or_extracted_iff (text : String) (h : HasDelimiter text.toList) :
    ((unbalanced? text = some text ∨ (Expression.extract text).isSome) ↔
      ¬(Paired (marks '{' '}' text.toList) ∧ Paired (marks '[' ']' text.toList) ∧
        Broken '{' '}' text.toList ∧ Broken '[' ']' text.toList)) ∧
    ('\n' ∉ text.toList → unbalanced? text = some text ∨ (Expression.extract text).isSome) := by
  constructor
  · rw [← Expression.extract_eq_none_iff, ← and_assoc, ← isUnbalancedChars_eq_false_iff,
      unbalanced?_eq_some, ← isUnbalanced, not_and_or, Bool.not_eq_false, ← Ne,
      Option.ne_none_iff_isSome]
  · intro hline
    cases hbalanced : isUnbalanced text with
    | true => exact Or.inl (unbalanced?_eq_some.2 hbalanced)
    | false => exact Or.inr (Option.ne_none_iff_isSome.1 (extract_ne_none h hbalanced hline))

/-- Two bindings, the first of them broken over lines. -/
def greeting : String := "[[\ntitle]] \x7b\x7bname\x7d\x7d!"

theorem reported_or_extracted_greeting :
    HasDelimiter greeting.toList ∧ ¬Broken '{' '}' greeting.toList ∧
    (unbalanced? greeting = some greeting ∨ (Expression.extract greeting).isSome) := by
  have h : HasDelimiter greeting.toList :=
    ⟨'[', by simp, [], "\ntitle]] \x7b\x7bname\x7d\x7d!".toList, by decide +kernel⟩
  have hcurly : ¬Broken '{' '}' greeting.toList := by
    intro hbroken
    have hline := hbroken "[[\ntitle]] ".toList "name".toList "!".toList (by decide +kernel)
    exact absurd hline (by decide +kernel)
  exact ⟨h, hcurly, (reported_or_extracted_iff greeting h).1.2 fun hb => hcurly hb.2.2.1⟩

/-- A binding broken over lines escapes: its delimiters pair up, and nothing is extracted. -/
theorem brokenBinding_escapes :
    HasDelimiter "\x7b\x7b\nname\n\x7d\x7d".toList ∧
    unbalanced? "\x7b\x7b\nname\n\x7d\x7d" = none ∧
    Expression.extract "\x7b\x7b\nname\n\x7d\x7d" = none := by
  refine ⟨⟨'{', by simp, [], "\nname\n\x7d\x7d".toList, ?_⟩, ?_, ?_⟩ <;> decide +kernel

end Binding

end ComponentLint
