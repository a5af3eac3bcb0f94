import ComponentLint.Proofs.CompoundText

/-!
Calls and their arguments.

The arguments of a call are told apart by the commas that no backslash stands immediately before.
While they are, the other commas are written as a mark. So every call has one key more than it has
such commas, and each key is found from its own argument alone.
-/

namespace ComponentLint

/-! ### Replacing and splitting -/

namespace Text

lemma isPrefixOf_eq_false_iff {pattern s : List Char} :
    pattern.isPrefixOf s = false ↔ ¬pattern <+: s := by
  rw [← Bool.not_eq_true, List.isPrefixOf_iff_prefix]

lemma replaceFrom_skip (old new u s : List Char) :
    replaceFrom old new u.length (u ++ s) = replaceFrom old new 0 s := by
  induction u with
  | nil => rfl
  | cons c u ih => exact ih

lemma replace_append {old : List Char} (hold : old ≠ []) (new s : List Char) :
    replace old new (old ++ s) = new ++ replace old new s := by
  obtain ⟨c, rest, rfl⟩ := List.exists_cons_of_ne_nil hold
  have hprefix : (c :: rest).isPrefixOf (c :: (rest ++ s)) := by simp [List.isPrefixOf_iff_prefix]
  rw [replace, List.cons_append, replaceFrom, if_pos hprefix]
  exact congrArg (new ++ ·) (replaceFrom_skip _ _ rest s)

lemma replace_cons {old : List Char} {c : Char} {cs : List Char}
    (h : old.isPrefixOf (c :: cs) = false) (new : List Char) :
    replace old new (c :: cs) = c :: replace old new cs := by
  rw [replace, replaceFrom, h]
  rfl

/-- A text is read occurrence by occurrence of a pattern, and character by character between. -/
theorem occurrence_induction {old : List Char} (hold : old ≠ []) {motive : List Char → Prop}
    (nil : motive []) (found : ∀ s, motive s → motive (old ++ s))
    (other : ∀ c cs, old.isPrefixOf (c :: cs) = false → motive cs → motive (c :: cs))
    (s : List Char) : motive s := by
  induction hn : s.length using Nat.strong_induction_on generalizing s with
  | _ n ih =>
    cases s with
    | nil => exact nil
    | cons c cs =>
      cases hprefix : old.isPrefixOf (c :: cs) with
      | false => exact other c cs hprefix (ih cs.length (by simp [← hn]) cs rfl)
      | true =>
        obtain ⟨v, hv⟩ := List.isPrefixOf_iff_prefix.1 hprefix
        have hlength : v.length < n := by
          have hpos : 0 < old.length := List.length_pos_iff.2 hold
          have hsum := congrArg List.length hv
          rw [List.length_append, hn] at hsum
          omega
        rw [← hv]
        exact found v (ih v.length hlength v rfl)

lemma mem_replace {old new s : List Char} {c : Char} (hold : old ≠ [])
    (h : c ∈ replace old new s) : c ∈ new ∨ c ∈ s := by
  induction s using occurrence_induction hold with
  | nil => exact Or.inr h
  | found s ih =>
    rw [replace_append hold, List.mem_append] at h
    exact h.elim Or.inl fun h => (ih h).imp_right (List.mem_append_right _)
  | other d cs hprefix ih =>
    rw [replace_cons hprefix, List.mem_cons] at h
    rcases h with rfl | h
    · exact Or.inr List.mem_cons_self
    · exact (ih h).imp_right (List.mem_cons_of_mem _)

lemma splitOn_eq (sep : Char) (s : List Char) : splitOn sep s = s.splitOn sep := by
  induction s with
  | nil => rfl
  | cons c cs ih =>
    rw [splitOn, ih, List.splitOn_cons_eq_if_modifyHead]
    simp only [beq_iff_eq]
    obtain ⟨first, others, hsplit⟩ := List.exists_cons_of_ne_nil (List.splitOn_ne_nil sep cs)
    rw [hsplit]
    rfl

lemma splitOn_append {sep : Char} {u : List Char} (h : sep ∉ u) (s : List Char) :
    (u ++ s).splitOn sep = (s.splitOn sep).modifyHead (u ++ ·) := by
  induction u with
  | nil => exact (congrFun List.modifyHead_id _).symm
  | cons c u ih =>
    rw [List.mem_cons, not_or] at h
    rw [List.cons_append, List.splitOn_cons_eq_if_modifyHead, if_neg (by simpa using Ne.symm h.1),
      ih h.2, List.modifyHead_modifyHead]
    rfl

/-- The last character of a line is found as such. -/
lemma beforeLast_concat {c : Char} (hc : c ≠ '\n') {w : List Char} (hw : '\n' ∉ w) :
    beforeLast [c] (w ++ [c]) = some w := by
  induction w with
  | nil => simp [beforeLast, hc, List.isPrefixOf]
  | cons d w ih =>
    rw [List.mem_cons, not_or] at hw
    rw [List.cons_append, beforeLast, if_neg (Ne.symm hw.1), ih hw.2]

lemma before_of_not_infix {pattern s : List Char} (h : ¬pattern <:+: s) : before pattern s = s := by
  have hcut : ∀ s, ¬pattern <:+: s → cut pattern s = none := by
    intro s hs
    induction s with
    | nil =>
      have hne : pattern ≠ [] := by
        rintro rfl
        exact hs List.nil_infix
      simp [cut, hne]
    | cons c cs ih =>
      have hprefix : pattern.isPrefixOf (c :: cs) = false :=
        isPrefixOf_eq_false_iff.2 fun hp => hs hp.isInfix
      rw [cut, hprefix, ih fun hi => hs (hi.trans (List.suffix_cons _ _).isInfix)]
      rfl
  rw [before, hcut s h]

end Text

/-- The key that an argument contributes to its call. -/
def Argument.key (a : Argument) : String := String.ofList (Expression.primaryName a.name)

namespace Expression

open Binding (IsPlain isPlain_append isPlain_of_isWord extractChars_binding)

/-! ### Segments between separators -/

/-- Each character of a text with the one before it; `prior` stands before the text. -/
def withPrior (prior : Option Char) (s : List Char) : List (Option Char × Char) :=
  (prior :: s.map some).zip s

/-- A comma that no backslash stands immediately before. -/
def isSeparator (p : Option Char × Char) : Bool := p.1 ≠ some '\\' ∧ p.2 = ','

def segmentsAfter (prior : Option Char) (s : List Char) : List (List Char) :=
  ((withPrior prior s).splitOnP isSeparator).map (·.map Prod.snd)

/-- The text between the separators. -/
def segments (s : List Char) : List (List Char) := segmentsAfter none s

def separatorCount (s : List Char) : ℕ := (withPrior none s).countP isSeparator

/-- Commas that do not separate, written as marks. -/
def mark (s : List Char) : List Char := Text.replace ['\\', ','] commaMark s

/-- The key of the argument that a segment is written as. -/
def segmentKey (s : List Char) : String := (argument (mark s)).key

@[simp] lemma mark_nil : mark [] = [] := rfl

lemma mark_escaped (s : List Char) : mark ('\\' :: ',' :: s) = commaMark ++ mark s :=
  Text.replace_append (List.cons_ne_nil _ _) _ s

lemma mark_cons {c : Char} {cs : List Char} (h : ['\\', ','].isPrefixOf (c :: cs) = false) :
    mark (c :: cs) = c :: mark cs :=
  Text.replace_cons h _

lemma length_splitOnP {α : Type} (test : α → Bool) (l : List α) :
    (l.splitOnP test).length = l.countP test + 1 := by
  induction l with
  | nil => simp
  | cons x l ih =>
    rw [List.splitOnP_cons_eq_if_modifyHead, List.countP_cons]
    split_ifs
    · rw [List.length_cons, ih]
    · rw [List.length_modifyHead, ih]

/-- **There is one segment more than there are separators.** -/
lemma length_segments (s : List Char) : (segments s).length = separatorCount s + 1 := by
  rw [segments, segmentsAfter, List.length_map, length_splitOnP, separatorCount]

lemma segmentsAfter_cons (prior : Option Char) (c : Char) (cs : List Char) :
    segmentsAfter prior (c :: cs) =
      if isSeparator (prior, c) then [] :: segmentsAfter (some c) cs
      else (segmentsAfter (some c) cs).modifyHead (c :: ·) := by
  have hpairs : withPrior prior (c :: cs) = (prior, c) :: withPrior (some c) cs := rfl
  rw [segmentsAfter, hpairs, List.splitOnP_cons_eq_if_modifyHead]
  split_ifs
  · rfl
  · rw [segmentsAfter]
    cases (withPrior (some c) cs).splitOnP isSeparator <;> rfl

/-- What stands before a text matters only if it is a backslash before a comma. -/
lemma segmentsAfter_eq {c : Char} {cs : List Char}
    (h : ['\\', ','].isPrefixOf (c :: cs) = false) : segmentsAfter (some c) cs = segments cs := by
  cases cs with
  | nil => rfl
  | cons d ds =>
    have hsame : isSeparator (some c, d) = isSeparator (none, d) := by
      simp only [List.isPrefixOf, Bool.and_eq_false_iff, beq_eq_false_iff_ne] at h
      simp only [isSeparator, ne_eq, Option.some.injEq, reduceCtorEq, not_false_eq_true, true_and,
        decide_eq_decide, and_iff_right_iff_imp]
      rintro rfl rfl
      simp at h
    rw [segments, segmentsAfter_cons, segmentsAfter_cons, hsame]

lemma segments_escaped (cs : List Char) :
    segments ('\\' :: ',' :: cs) = (segments cs).modifyHead (['\\', ','] ++ ·) := by
  have hplain : ['\\', ','].isPrefixOf (',' :: cs) = false := by simp [List.isPrefixOf]
  rw [segments, segmentsAfter_cons, if_neg (by decide), segmentsAfter_cons, if_neg (by decide),
    segmentsAfter_eq hplain, List.modifyHead_modifyHead]
  rfl

lemma segments_cons {c : Char} {cs : List Char} (h : ['\\', ','].isPrefixOf (c :: cs) = false) :
    segments (c :: cs) =
      if c = ',' then [] :: segments cs else (segments cs).modifyHead (c :: ·) := by
  rw [segments, segmentsAfter_cons, segmentsAfter_eq h]
  simp [isSeparator]

lemma segments_ne_nil (s : List Char) : segments s ≠ [] := by
  rw [← List.length_pos_iff, length_segments]
  omega

/-- The first segment starts as the text does, unless it is empty. -/
lemma head?_of_segments {s first : List Char} {others : List (List Char)}
    (h : segments s = first :: others) : first = [] ∨ first.head? = s.head? := by
  cases s with
  | nil =>
    obtain ⟨rfl, -⟩ := List.cons.inj h
    exact Or.inl rfl
  | cons c cs =>
    rw [segments, segmentsAfter_cons] at h
    split_ifs at h
    · obtain ⟨rfl, -⟩ := List.cons.inj h
      exact Or.inl rfl
    · cases hrest : segmentsAfter (some c) cs with
      | nil => simp [hrest] at h
      | cons first' others' =>
        rw [hrest, List.modifyHead_cons] at h
        obtain ⟨rfl, -⟩ := List.cons.inj h
        exact Or.inr rfl

/-- **Splitting at the commas that are left gives the segments**, each with its own marks. -/
lemma splitOn_mark (s : List Char) : (mark s).splitOn ',' = (segments s).map mark := by
  have hpattern : ['\\', ','] ≠ [] := List.cons_ne_nil _ _
  induction s using Text.occurrence_induction hpattern with
  | nil => rfl
  | found s ih =>
    obtain ⟨first, others, hsegments⟩ := List.exists_cons_of_ne_nil (segments_ne_nil s)
    rw [List.cons_append, List.cons_append, List.nil_append, mark_escaped,
      Text.splitOn_append (by decide), ih, segments_escaped, hsegments, List.map_cons,
      List.modifyHead_cons, List.modifyHead_cons, List.map_cons]
    exact congrArg (· :: _) (mark_escaped first).symm
  | other c cs hprefix ih =>
    obtain ⟨first, others, hsegments⟩ := List.exists_cons_of_ne_nil (segments_ne_nil cs)
    rw [mark_cons hprefix, List.splitOn_cons_eq_if_modifyHead, ih, segments_cons hprefix]
    by_cases hc : c = ','
    · simp [hc]
    · have hfirst : ['\\', ','].isPrefixOf (c :: first) = false := by
        rcases head?_of_segments hsegments with rfl | hhead
        · simp [List.isPrefixOf]
        · rw [Text.isPrefixOf_eq_false_iff] at hprefix ⊢
          rintro ⟨rest, hrest⟩
          obtain ⟨rfl, rfl⟩ : '\\' = c ∧ ',' :: rest = first := by simpa using hrest
          obtain ⟨tail, rfl⟩ := List.head?_eq_some_iff.1 hhead.symm
          exact hprefix ⟨tail, rfl⟩
      simp [hc, hsegments, mark_cons hfirst]

lemma arguments_eq (s : List Char) :
    arguments s =
      if Text.isBlank s then [] else (segments s).map fun seg => argument (mark seg) := by
  rw [arguments, ← mark, Text.splitOn_eq, splitOn_mark, List.map_map]
  rfl

/-! ### Calls -/

/-- Word characters only. -/
def IsMethod (s : List Char) : Prop := ∀ c ∈ s, Text.isWord c

instance (s : List Char) : Decidable (IsMethod s) := List.decidableBAll _ s

/-- What may stand between the parentheses: one line without brackets and without a doubled
colon. -/
structure IsArgumentText (s : List Char) : Prop where
  isPlain : IsPlain s
  no_event : ¬[':', ':'] <:+: s

/-- A call: the method, and the arguments between parentheses. -/
def callChars (method args : List Char) : List Char := method ++ '(' :: (args ++ [')'])

/-- A binding to a call. -/
def callText (method args : List Char) : String :=
  String.ofList ('{' :: '{' :: (callChars method args ++ ['}', '}']))

variable {method args : List Char}

lemma isPlain_callChars (hmethod : IsMethod method) (hargs : IsPlain args) :
    IsPlain (callChars method args) := by
  have hclosing : IsPlain [')'] := by decide
  exact isPlain_append.2 ⟨isPlain_of_isWord hmethod, List.forall_mem_cons.2
    ⟨by decide, isPlain_append.2 ⟨hargs, hclosing⟩⟩⟩

/-- No event is cut off a call. -/
lemma before_callChars (hmethod : IsMethod method) (hargs : ¬[':', ':'] <:+: args) :
    Text.before [':', ':'] (callChars method args) = callChars method args := by
  have hcolon : ':' ∉ method ++ ['('] := by
    have hword : ':' ∉ method := fun hmem => absurd (hmethod _ hmem) (by decide)
    simp [hword]
  have hrest : ¬[':', ':'] <:+: args ++ [')'] := by
    rw [List.infix_concat_iff, not_or]
    refine ⟨?_, hargs⟩
    rintro ⟨u, hu⟩
    have hlast := congrArg List.getLast? hu
    simp at hlast
  have hsplit : callChars method args = (method ++ ['(']) ++ (args ++ [')']) := by
    simp [callChars]
  rw [hsplit, Text.before_append hcolon, Text.before_of_not_infix hrest]

/-- Nor any white space. -/
lemma strip_callChars (hmethod : IsMethod method) :
    Text.strip (callChars method args) = callChars method args := by
  refine Text.strip_of_ends (fun c hc => ?_) fun c hc => ?_
  · cases method with
    | nil =>
      obtain rfl : '(' = c := Option.some.inj hc
      decide
    | cons d ds =>
      obtain rfl : d = c := Option.some.inj hc
      exact Text.isSpace_of_isWord (hmethod d List.mem_cons_self)
  · have hconcat : callChars method args = (method ++ '(' :: args) ++ [')'] := by simp [callChars]
    rw [hconcat, List.getLast?_concat] at hc
    obtain rfl : ')' = c := Option.some.inj hc
    decide

lemma extractChars_callText (hmethod : IsMethod method) (hargs : IsArgumentText args) :
    extractChars (callText method args).toList = some (callChars method args) := by
  have hbinding := extractChars_binding .curly (List.forall_mem_nil _)
    (isPlain_callChars hmethod hargs.isPlain) (List.forall_mem_nil _)
  rw [before_callChars hmethod hargs.no_event, strip_callChars hmethod] at hbinding
  rw [callText, String.toList_ofList]
  exact hbinding

/-- A call ends at the parenthesis that closes the text. -/
lemma call_callChars (hmethod : IsMethod method) (hargs : '\n' ∉ args) :
    call (callChars method args) = some (method, args) := by
  have hparen : ¬Text.isWord '(' := by decide
  have hhere : callHere (callChars method args) = some (method, args) := by
    rw [callHere, callChars, List.dropWhile_append_of_pos hmethod,
      List.dropWhile_cons_of_neg hparen, List.takeWhile_append_of_pos hmethod,
      List.takeWhile_cons_of_neg hparen, List.append_nil]
    simp only [Text.beforeLast_concat (by decide : ')' ≠ '\n') hargs, Option.map_some]
  cases hchars : callChars method args with
  | nil => simp [callChars] at hchars
  | cons c cs =>
    rw [call, ← hchars, hhere]
    rfl

/-- A binding to a call is computed from its arguments. -/
lemma parse_of_call (hmethod : IsMethod method) (hargs : IsArgumentText args) :
    parse (callText method args) =
      { raw := callText method args
        kind := .computed
        keys := if Text.isBlank args then [] else (segments args).map segmentKey
        methods := [String.ofList method] } := by
  have hcall := call_callChars hmethod hargs.isPlain.newline_not_mem
  simp only [parse, extractChars_callText hmethod hargs, Option.getD_some, hcall, arguments_eq]
  split_ifs
  · rfl
  · rw [List.map_map]
    rfl

/-- **A call has one key for each of its arguments**, none if all between the parentheses is
white space; a key is found from the segment of its own argument. -/
theorem parse_callText (method args : List Char) (hmethod : IsMethod method)
    (hargs : IsArgumentText args) :
    parse (callText method args) =
      { raw := callText method args
        kind := .computed
        keys := if Text.isBlank args then [] else (segments args).map segmentKey
        methods := [String.ofList method] } ∧
    (parse (callText method args)).keys.length =
      if Text.isBlank args then 0 else separatorCount args + 1 := by
  have hparse := parse_of_call hmethod hargs
  refine ⟨hparse, ?_⟩
  rw [hparse]
  split_ifs
  · rfl
  · rw [List.length_map, length_segments]

/-- Nested parentheses, an escaped comma, a blank argument and one that ends in a backslash. -/
def nestedArguments : List Char := "g(a, b), c\\,d,, e\\".toList

theorem parse_nestedArguments :
    segments nestedArguments =
      ["g(a".toList, " b)".toList, " c\\,d".toList, [], " e\\".toList] ∧
    (parse (callText "f".toList nestedArguments)).methods = ["f"] ∧
    (parse (callText "f".toList nestedArguments)).keys = ["g(a", "b)", "c,d", "", "e\\"] ∧
    (parse (callText "f".toList nestedArguments)).keys.length =
      separatorCount nestedArguments + 1 := by
  have hargs : IsArgumentText nestedArguments := ⟨by decide +kernel, by decide +kernel⟩
  obtain ⟨hparse, hlength⟩ := parse_callText "f".toList nestedArguments (by decide) hargs
  refine ⟨by decide +kernel, by rw [hparse]; rfl, ?_, ?_⟩
  · rw [hparse]
    decide +kernel
  · rw [hlength, if_neg (by decide +kernel)]

end Expression

end ComponentLint
