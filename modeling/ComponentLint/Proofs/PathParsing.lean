import ComponentLint.Binding.Expression
import Mathlib

/-!
Expressions that are paths.

An expression that starts with a word character, not a digit, and has no parenthesis is a reference
to one key: all that stands before its first point.
-/

namespace ComponentLint

/-! ### Cutting and stripping -/

namespace Text

/-- The white space beyond ASCII. -/
def wideSpaceCodes : List ℕ :=
  [0x85, 0xa0, 0x1680] ++ List.range' 0x2000 11 ++ [0x2028, 0x2029, 0x202f, 0x205f, 0x3000]

lemma wideSpaceCodes_outside : ∀ n ∈ wideSpaceCodes,
    128 ≤ n ∧ (wordRuns.takeWhile (· ≤ n)).length % 2 = 0 := by
  decide +kernel

lemma isWord_of_toNat_le {c : Char} (h : c.toNat ≤ 32) : isWord c = false := by
  have hlt : ∀ d : Char, 32 < d.toNat → ¬d ≤ c := by
    intro d hd hle
    have : d.toNat ≤ c.toNat := hle
    omega
  have hne : c ≠ '_' := by
    rintro rfl
    revert h
    decide
  have h128 : c.toNat < 128 := by omega
  simp [isWord, h128, isAsciiLetter, isAsciiDigit, hlt 'a' (by decide), hlt 'A' (by decide),
    hlt '0' (by decide), hne]

lemma isSpace_of_isWord {c : Char} (h : isWord c) : isSpace c = false := by
  by_contra hspace
  simp only [isSpace, Bool.not_eq_false, Bool.or_eq_true, Bool.and_eq_true, decide_eq_true_eq,
    beq_iff_eq] at hspace
  have hcases : c.toNat ≤ 32 ∨ c.toNat ∈ wideSpaceCodes := by
    simp only [wideSpaceCodes, List.mem_append, List.mem_cons, List.not_mem_nil, or_false,
      List.mem_range'_1]
    omega
  rcases hcases with hle | hwide
  · rw [isWord_of_toNat_le hle] at h
    cases h
  · obtain ⟨hge, heven⟩ := wideSpaceCodes_outside _ hwide
    rw [isWord, if_neg (by omega), inRuns, heven] at h
    cases h

lemma ne_of_isWord {c d : Char} (h : isWord c) (hd : isWord d = false) : c ≠ d := by
  rintro rfl
  rw [h] at hd
  cases hd

lemma cut_append {d : Char} {rest u : List Char} (h : d ∉ u) (v : List Char) :
    cut (d :: rest) (u ++ v) = (cut (d :: rest) v).map fun r => (u ++ r.1, r.2) := by
  induction u with
  | nil => simp
  | cons c u ih =>
    simp only [List.mem_cons, not_or] at h
    have hnot : (d :: rest).isPrefixOf (c :: (u ++ v)) = false := by simp [List.isPrefixOf, h.1]
    rw [List.cons_append, cut, hnot, ih h.2]
    cases cut (d :: rest) v <;> simp

/-- A pattern that starts with a character of its own is looked for after the others. -/
lemma before_append {d : Char} {rest u : List Char} (h : d ∉ u) (v : List Char) :
    before (d :: rest) (u ++ v) = u ++ before (d :: rest) v := by
  rw [before, before, cut_append h]
  cases cut (d :: rest) v <;> rfl

lemma stripRight_append {u : List Char} (h : ∀ c ∈ u.getLast?, isSpace c = false) (v : List Char)
    (hne : u ≠ []) : stripRight (u ++ v) = u ++ stripRight v := by
  obtain ⟨u, c, rfl⟩ := (List.eq_nil_or_concat u).resolve_left hne
  have hc : isSpace c = false := h c (by simp)
  rw [stripRight, stripRight, List.reverse_append, List.dropWhile_append]
  cases hv : (v.reverse.dropWhile isSpace) with
  | nil => simp [hc]
  | cons d rest => simp

/-- White space is stripped after a part that neither starts nor ends with it. -/
lemma strip_append {u : List Char} (hne : u ≠ []) (hfirst : ∀ c ∈ u.head?, isSpace c = false)
    (hlast : ∀ c ∈ u.getLast?, isSpace c = false) (v : List Char) :
    strip (u ++ v) = u ++ stripRight v := by
  cases u with
  | nil => exact absurd rfl hne
  | cons c u =>
    have hc : isSpace c = false := hfirst c rfl
    rw [strip, stripLeft, List.cons_append, List.dropWhile_cons_of_neg (by simp [hc]),
      ← List.cons_append, stripRight_append hlast v hne]

lemma strip_of_ends {u : List Char} (hfirst : ∀ c ∈ u.head?, isSpace c = false)
    (hlast : ∀ c ∈ u.getLast?, isSpace c = false) : strip u = u := by
  rcases eq_or_ne u [] with rfl | hne
  · rfl
  · have hstrip := strip_append hne hfirst hlast []
    rw [List.append_nil] at hstrip
    exact hstrip.trans (List.append_nil u)

lemma stripRight_eq_nil {u : List Char} (h : ∀ c ∈ u, isSpace c) : stripRight u = [] := by
  have hdrop : u.reverse.dropWhile isSpace = [] :=
    List.dropWhile_eq_nil_iff.2 fun c hc => h c (List.mem_reverse.1 hc)
  rw [stripRight, hdrop, List.reverse_nil]

lemma strip_blank_append {u : List Char} (h : ∀ c ∈ u, isSpace c) (v : List Char) :
    strip (u ++ v) = strip v := by
  rw [strip, stripLeft, List.dropWhile_append_of_pos h, ← stripLeft, ← strip]

/-- Without its first character a pattern does not occur. -/
lemma before_of_not_mem {d : Char} {rest u : List Char} (h : d ∉ u) :
    before (d :: rest) u = u := by
  have hbefore : before (d :: rest) (u ++ []) = u ++ before (d :: rest) [] := before_append h []
  rw [List.append_nil] at hbefore
  exact hbefore.trans (List.append_nil u)

/-- The event of a two-way binding, and then white space, are cut off after such a part if it has
no colon. -/
lemma strip_before_append {u : List Char} (hne : u ≠ []) (hcolon : ':' ∉ u)
    (hfirst : ∀ c ∈ u.head?, isSpace c = false) (hlast : ∀ c ∈ u.getLast?, isSpace c = false)
    (v : List Char) :
    strip (before [':', ':'] (u ++ v)) = u ++ stripRight (before [':', ':'] v) := by
  rw [before_append hcolon, strip_append hne hfirst hlast]

lemma mem_of_mem_stripRight {c : Char} {s : List Char} (h : c ∈ stripRight s) : c ∈ s := by
  have hrev := (List.dropWhile_sublist _).subset (List.mem_reverse.1 h)
  exact List.mem_reverse.1 hrev

lemma cut_prefix {pattern s : List Char} {r : List Char × List Char} (h : cut pattern s = some r) :
    r.1 <+: s := by
  induction s generalizing r with
  | nil =>
    rw [cut] at h
    split_ifs at h
    cases h
    exact List.prefix_rfl
  | cons c cs ih =>
    rw [cut] at h
    split_ifs at h
    · cases h
      exact List.nil_prefix
    · obtain ⟨r', hr', rfl⟩ := Option.map_eq_some_iff.1 h
      exact List.prefix_cons_inj c |>.2 (ih hr')

lemma before_prefix (pattern s : List Char) : before pattern s <+: s := by
  rw [before]
  split
  · exact cut_prefix ‹_›
  · exact List.prefix_rfl

end Text

/-! ### Paths -/

namespace Expression

/-- Without a parenthesis there is no call. -/
lemma call_eq_none {s : List Char} (h : '(' ∉ s) : call s = none := by
  induction s with
  | nil => rfl
  | cons c cs ih =>
    have hhere : callHere (c :: cs) = none := by
      have hnot : '(' ∉ (c :: cs).dropWhile Text.isWord :=
        fun hmem => h ((List.dropWhile_sublist _).subset hmem)
      unfold callHere
      split
      · rename_i hrest
        rw [hrest] at hnot
        simp at hnot
      · rfl
    rw [call, hhere, ih fun hmem => h (List.mem_cons_of_mem _ hmem)]
    rfl

lemma dropFinalNewline_cons {c : Char} (h : c ≠ '\n') (cs : List Char) :
    ∃ cs', dropFinalNewline (c :: cs) = c :: cs' := by
  unfold dropFinalNewline
  split_ifs with hlast
  · cases cs with
    | nil => simp [h] at hlast
    | cons d cs => exact ⟨_, List.dropLast_cons_cons⟩
  · exact ⟨cs, rfl⟩

/-- A literal starts with a quote, a minus, a digit or a point. -/
lemma isLiteral_eq_false_of_first {c : Char} (hline : c ≠ '\n') (hquote : isQuote c = false)
    (hminus : c ≠ '-') (hpoint : c ≠ '.') (hdigit : Text.isDecimal c = false) (cs : List Char) :
    isLiteral (c :: cs) = false := by
  obtain ⟨cs', hcs'⟩ := dropFinalNewline_cons hline cs
  have hquoted : isQuoted (c :: cs') = false := by simp [isQuoted, hquote]
  have hnumeral : isNumeral (c :: cs') = false := by simp [isNumeral, hminus, hdigit, hpoint]
  simp [isLiteral, hcs', hquoted, hnumeral]

/-- What starts with a word character that is no digit is not a literal. -/
lemma isLiteral_eq_false {c : Char} (hword : Text.isWord c) (hdigit : Text.isDecimal c = false)
    (cs : List Char) : isLiteral (c :: cs) = false := by
  have hne : ∀ d, Text.isWord d = false → c ≠ d := fun d => Text.ne_of_isWord hword
  have hquote : isQuote c = false := by
    simp [isQuote, hne '\'' (by decide), hne '"' (by decide)]
  exact isLiteral_eq_false_of_first (hne '\n' (by decide)) hquote (hne '-' (by decide))
    (hne '.' (by decide)) hdigit cs

/-- Negations do not count. -/
lemma primaryName_negated (n : ℕ) (s : List Char) :
    primaryName (List.replicate n '!' ++ s) = primaryName s := by
  induction n with
  | zero => rfl
  | succ n ih => rw [List.replicate_succ, List.cons_append, primaryName, if_pos rfl, ih]

lemma primaryName_of_isWord {c : Char} (hword : Text.isWord c)
    (hdigit : Text.isDecimal c = false) (cs : List Char) :
    primaryName (c :: cs) = (c :: cs).takeWhile (· ≠ '.') := by
  have hbang : c ≠ '!' := Text.ne_of_isWord hword (by decide)
  rw [primaryName, if_neg hbang, isLiteral_eq_false hword hdigit]
  rfl

/-- **A path, negated or not, is a reference to the key before its first point.** -/
lemma parse_path {text : String} (n : ℕ) {c : Char} {cs : List Char}
    (h : extractChars text.toList = some (List.replicate n '!' ++ c :: cs))
    (hword : Text.isWord c) (hdigit : Text.isDecimal c = false) (hcall : '(' ∉ c :: cs) :
    parse text =
      { raw := text
        kind := .reference
        keys := [String.ofList ((c :: cs).takeWhile (· ≠ '.'))]
        methods := [] } := by
  have hbang : c ≠ '!' := Text.ne_of_isWord hword (by decide)
  have hnone : call (List.replicate n '!' ++ c :: cs) = none := by
    refine call_eq_none ?_
    rw [List.mem_append, not_or]
    exact ⟨fun hmem => absurd (List.eq_of_mem_replicate hmem) (by decide), hcall⟩
  have hdrop : (List.replicate n '!' ++ c :: cs).dropWhile (· == '!') = c :: cs := by
    rw [List.dropWhile_append_of_pos fun d hd => by simp [List.eq_of_mem_replicate hd],
      List.dropWhile_cons_of_neg (by simp [hbang])]
  simp only [parse, h, Option.getD_some, hnone, hdrop]
  rw [isLiteral_eq_false hword hdigit, primaryName_negated, primaryName_of_isWord hword hdigit]
  rfl

end Expression

end ComponentLint
