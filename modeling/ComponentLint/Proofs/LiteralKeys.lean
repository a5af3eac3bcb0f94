import ComponentLint.Proofs.CallArguments
import ComponentLint.Rule.BoundVariables

/-!
Keys of literal arguments.

An argument is a literal by its first character, but its key is empty only if it is a literal to its
last. What starts like one and does not end like one is looked up as a property.
-/

namespace ComponentLint

/-! ### Last characters -/

namespace Text

lemma getLast?_cons_eq_some {c d : Char} {s : List Char} :
    (c :: s).getLast? = some d ↔ s = [] ∧ c = d ∨ s.getLast? = some d := by
  cases s with
  | nil => simp
  | cons e s => simp [List.getLast?_cons_cons]

lemma replace_eq_nil {old new s : List Char} (hold : old ≠ []) (hnew : new ≠ [])
    (h : replace old new s = []) : s = [] := by
  induction s using occurrence_induction hold with
  | nil => rfl
  | found s ih =>
    rw [replace_append hold, List.append_eq_nil_iff] at h
    exact absurd h.1 hnew
  | other c cs hprefix ih =>
    rw [replace_cons hprefix] at h
    exact absurd h (List.cons_ne_nil _ _)

/-- What a text ends with after replacing is the end of what was put in or of the text. -/
lemma getLast?_replace {old new s : List Char} {c : Char} (hold : old ≠ []) (hnew : new ≠ [])
    (h : (replace old new s).getLast? = some c) : new.getLast? = some c ∨ s.getLast? = some c := by
  induction s using occurrence_induction hold with
  | nil => exact Or.inr h
  | found s ih =>
    rw [replace_append hold, List.getLast?_append, Option.or_eq_some_iff] at h
    rcases h with h | ⟨-, h⟩
    · refine (ih h).imp_right fun h => ?_
      rw [List.getLast?_append, h, Option.some_or]
    · exact Or.inl h
  | other d cs hprefix ih =>
    rw [replace_cons hprefix, getLast?_cons_eq_some] at h
    rw [getLast?_cons_eq_some]
    rcases h with ⟨hnil, rfl⟩ | h
    · exact Or.inr (Or.inl ⟨replace_eq_nil hold hnew hnil, rfl⟩)
    · exact (ih h).imp_right Or.inr

lemma isSpace_of_getLast?_strip {s : List Char} {c : Char} (h : (strip s).getLast? = some c) :
    isSpace c = false := by
  rw [strip, stripRight, List.getLast?_reverse] at h
  have hhead := List.head?_dropWhile_not isSpace (stripLeft s).reverse
  rw [h] at hhead
  exact hhead

end Text

namespace Expression

lemma unescape_eq_nil {s : List Char} (h : unescape s = []) : s = [] := by
  fun_cases unescape s with
  | case1 => rfl
  | case2 cs => simp [unescape] at h
  | case3 c cs hc => simp [unescape, hc] at h
  | case4 c cs hc => simp [unescape] at h

/-- Only a line end is kept as one. -/
lemma getLast?_unescape {s : List Char} (h : (unescape s).getLast? = some '\n') :
    s.getLast? = some '\n' := by
  fun_induction unescape s with
  | case1 => exact h
  | case2 cs ih =>
    simp only [Text.getLast?_cons_eq_some] at h ⊢
    simp only [List.cons_ne_nil, false_and, false_or, and_true] at h ⊢
    exact h.imp unescape_eq_nil ih
  | case3 c cs hc ih =>
    simp only [Text.getLast?_cons_eq_some] at h ⊢
    rcases h with ⟨-, hline⟩ | h
    · exact absurd hline hc
    · exact Or.inr (Or.inr (ih h))
  | case4 c cs hc ih =>
    rw [Text.getLast?_cons_eq_some] at h ⊢
    exact h.imp (fun h => ⟨unescape_eq_nil h.1, h.2⟩) ih

/-! ### Complete literals -/

/-- Quotes at both ends and no line end between them, or digits with a point among them or none. -/
inductive IsComplete : List Char → Prop
  | quoted {q q' : Char} {inner : List Char} (hq : isQuote q) (hq' : isQuote q')
      (hline : '\n' ∉ inner) : IsComplete (q :: (inner ++ [q']))
  | whole {digits : List Char} (hne : digits ≠ []) (h : ∀ c ∈ digits, Text.isDecimal c) :
      IsComplete digits
  | pointed {digits fraction : List Char} (hne : fraction ≠ [])
      (h : ∀ c ∈ digits ++ fraction, Text.isDecimal c) : IsComplete (digits ++ '.' :: fraction)

lemma isQuoted_iff {s : List Char} : isQuoted s ↔ ∃ q inner q', s = q :: (inner ++ [q']) ∧
    isQuote q ∧ isQuote q' ∧ '\n' ∉ inner := by
  constructor
  · intro h
    cases s with
    | nil => cases h
    | cons q rest =>
      simp only [isQuoted, Bool.and_eq_true, Bool.not_eq_true', List.contains_eq_mem,
        decide_eq_false_iff_not] at h
      obtain ⟨⟨hq, hlast⟩, hline⟩ := h
      rcases List.eq_nil_or_concat rest with rfl | ⟨inner, q', rfl⟩
      · cases hlast
      · rw [List.concat_eq_append] at hlast hline ⊢
        rw [List.getLast?_concat] at hlast
        exact ⟨q, inner, q', rfl, hq, hlast, fun hmem => hline (List.mem_append_left _ hmem)⟩
  · rintro ⟨q, inner, q', rfl, hq, hq', hline⟩
    have hend : '\n' ≠ q' := by
      rintro rfl
      cases hq'
    simp [isQuoted, hq, hq', hline, hend]

lemma isNumeral_iff {s : List Char} (h : s.head? ≠ some '-') : isNumeral s ↔
    (s ≠ [] ∧ ∀ c ∈ s, Text.isDecimal c) ∨ ∃ digits fraction, s = digits ++ '.' :: fraction ∧
      fraction ≠ [] ∧ ∀ c ∈ digits ++ fraction, Text.isDecimal c := by
  have hpoint : ¬Text.isDecimal '.' := by decide
  rw [isNumeral, if_neg h]
  constructor
  · intro hnumeral
    have hsplit := List.takeWhile_append_dropWhile (p := Text.isDecimal) (l := s)
    have hdigits : ∀ c ∈ s.takeWhile Text.isDecimal, Text.isDecimal c :=
      fun c hc => List.mem_takeWhile_imp hc
    cases hrest : s.dropWhile Text.isDecimal with
    | nil =>
      rw [hrest, List.append_nil] at hsplit
      rw [hrest, hsplit] at hnumeral
      rw [hsplit] at hdigits
      exact Or.inl ⟨by simpa using hnumeral, hdigits⟩
    | cons c fraction =>
      rw [hrest] at hsplit hnumeral
      simp only [Bool.and_eq_true, beq_iff_eq, Bool.not_eq_true', List.isEmpty_eq_false_iff,
        List.all_eq_true] at hnumeral
      obtain ⟨⟨rfl, hne⟩, hfraction⟩ := hnumeral
      exact Or.inr ⟨_, fraction, hsplit.symm, hne, List.forall_mem_append.2 ⟨hdigits, hfraction⟩⟩
  · rintro (⟨hne, hdigits⟩ | ⟨digits, fraction, rfl, hne, hdecimal⟩)
    · rw [List.dropWhile_eq_nil_iff.2 hdigits, List.takeWhile_eq_self_iff.2 hdigits]
      simpa using hne
    · obtain ⟨hdigits, hfraction⟩ := List.forall_mem_append.1 hdecimal
      rw [List.dropWhile_append_of_pos hdigits, List.dropWhile_cons_of_neg hpoint]
      simpa using ⟨hne, hfraction⟩

lemma isComplete_iff {s : List Char} :
    IsComplete s ↔ isQuoted s ∨ s.head? ≠ some '-' ∧ isNumeral s := by
  have hfirst : ∀ {c : Char}, c = '-' → ¬Text.isDecimal c := by
    rintro c rfl
    decide
  constructor
  · intro h
    cases h with
    | quoted hq hq' hinner => exact Or.inl (isQuoted_iff.2 ⟨_, _, _, rfl, hq, hq', hinner⟩)
    | whole hne h =>
      have hhead : s.head? ≠ some '-' :=
        fun hc => hfirst rfl (h _ (List.mem_of_mem_head? hc))
      exact Or.inr ⟨hhead, (isNumeral_iff hhead).2 (Or.inl ⟨hne, h⟩)⟩
    | @pointed digits fraction hne h =>
      have hhead : (digits ++ '.' :: fraction).head? ≠ some '-' := by
        cases digits with
        | nil => simp
        | cons c cs => exact fun hc => hfirst (Option.some.inj hc) (h c List.mem_cons_self)
      exact Or.inr ⟨hhead, (isNumeral_iff hhead).2 (Or.inr ⟨_, _, rfl, hne, h⟩)⟩
  · rintro (hquoted | ⟨hhead, hnumeral⟩)
    · obtain ⟨q, inner, q', rfl, hq, hq', hinner⟩ := isQuoted_iff.1 hquoted
      exact .quoted hq hq' hinner
    · rcases (isNumeral_iff hhead).1 hnumeral with ⟨hne, h⟩ | ⟨digits, fraction, rfl, hne, h⟩
      · exact .whole hne h
      · exact .pointed hne h

instance (s : List Char) : Decidable (IsComplete s) := decidable_of_iff _ isComplete_iff.symm

lemma isLiteral_iff {s : List Char} (hminus : s.head? ≠ some '-')
    (hline : s.getLast? ≠ some '\n') : isLiteral s ↔ IsComplete s := by
  have hdrop : dropFinalNewline s = s := if_neg hline
  rw [isLiteral, hdrop, Bool.or_eq_true, isComplete_iff, and_iff_right hminus]

/-! ### Keys -/

/-- A literal argument starts with a quote or a digit and does not end a line. -/
lemma name_of_isLiteral {raw : List Char} (h : (argument raw).isLiteral) :
    ∃ c cs, (argument raw).name = c :: cs ∧ (isQuote c ∨ Text.isAsciiDigit c) ∧
      (argument raw).name.getLast? ≠ some '\n' := by
  have hline : (unescape (Text.replace commaMark [','] (Text.strip raw))).getLast? ≠
      some '\n' := by
    intro hlast
    rcases Text.getLast?_replace (by decide) (by decide) (getLast?_unescape hlast) with
      hlast | hlast
    · cases hlast
    · exact absurd (Text.isSpace_of_getLast?_strip hlast) (by decide)
  rw [argument] at h ⊢
  cases harg : unescape (Text.replace commaMark [','] (Text.strip raw)) with
  | nil =>
    rw [harg] at h
    cases h
  | cons c cs =>
    rw [harg] at h hline
    dsimp only at h ⊢
    split_ifs at h ⊢ with hquote hdigit
    · exact ⟨c, cs, rfl, Or.inl hquote, hline⟩
    · exact ⟨c, cs, rfl, Or.inr hdigit, hline⟩
    all_goals cases h

/-- **The key of a literal argument is empty exactly when the literal is complete.** -/
lemma key_eq_empty_iff {raw : List Char} (h : (argument raw).isLiteral) :
    (argument raw).key = "" ↔ IsComplete (argument raw).name := by
  obtain ⟨c, cs, hname, hfirst, hline⟩ := name_of_isLiteral h
  have hne : ∀ d, isQuote d = false → Text.isAsciiDigit d = false → c ≠ d := by
    rintro d hquote hdigit rfl
    simp [hquote, hdigit] at hfirst
  have hminus : (c :: cs).head? ≠ some '-' :=
    fun hc => hne '-' (by decide) (by decide) (Option.some.inj hc)
  rw [hname] at hline
  rw [Argument.key, hname, ← isLiteral_iff hminus hline, primaryName,
    if_neg (hne '!' (by decide) (by decide)), ← String.ofList_nil, String.ofList_inj]
  split_ifs with hliteral
  · exact iff_of_true rfl hliteral
  · rw [List.takeWhile_cons_of_pos (by simpa using hne '.' (by decide) (by decide))]
    exact iff_of_false (List.cons_ne_nil _ _) hliteral

/-- The arguments of the call in a text. -/
def callArguments (text : String) : List Argument :=
  match call ((extractChars text.toList).getD (Text.strip text.toList)) with
  | some (_, args) => arguments args
  | none => []

lemma keys_of_computed {text : String} (h : (parse text).kind = .computed) :
    (parse text).keys = (callArguments text).map Argument.key := by
  rw [parse] at h ⊢
  rw [callArguments]
  cases hcall : call ((extractChars text.toList).getD (Text.strip text.toList)) with
  | some r => rfl
  | none =>
    rw [hcall] at h
    dsimp only at h
    split_ifs at h

lemma exists_raw_of_mem {text : String} {a : Argument} (h : a ∈ callArguments text) :
    ∃ raw, argument raw = a := by
  rw [callArguments] at h
  split at h
  · rw [arguments] at h
    split_ifs at h
    · exact absurd h List.not_mem_nil
    · obtain ⟨raw, -, hraw⟩ := List.mem_map.1 h
      exact ⟨raw, hraw⟩
  · exact absurd h List.not_mem_nil

end Expression

namespace Rule.BoundVariables

open Expression

lemma isMissing_empty (properties : List Property) (implicit : String → Bool) :
    isMissing properties implicit "" = false := by
  simp [isMissing]

/-- Without the empty keys the same is missing. -/
lemma filter_isMissing_key (properties : List Property) (implicit : String → Bool)
    {args : List Argument} (h : ∀ a ∈ args, a.isLiteral → a.key = "") :
    (args.map Argument.key).filter (isMissing properties implicit) =
      ((args.filter (!·.isLiteral)).map Argument.key).filter (isMissing properties implicit) := by
  induction args with
  | nil => rfl
  | cons a args ih =>
    rw [List.forall_mem_cons] at h
    cases ha : a.isLiteral with
    | false =>
      rw [List.filter_cons_of_pos (by simp [ha]), List.map_cons, List.map_cons, List.filter_cons,
        List.filter_cons, ih h.2]
    | true =>
      rw [List.filter_cons_of_neg (by simp [ha]), List.map_cons, h.1 ha,
        List.filter_cons_of_neg (by simp [isMissing_empty]), ih h.2]

/-- **A literal argument has the empty key exactly when it is complete.** A call whose literals are
all complete is reported for its method and its paths alone; an incomplete literal is reported as a
property is, unless one of that name is declared or implicit. -/
theorem literal_keys_empty_iff_complete (label tag : String) (properties : List Property)
    (implicit : String → Bool) (bound : Option String) :
    (∀ raw, (argument raw).isLiteral →
      ((argument raw).key = "" ↔ IsComplete (argument raw).name)) ∧
    ∀ text, (parse text).kind = .computed →
      (parse text).keys = (callArguments text).map Argument.key ∧
      (∀ a ∈ callArguments text, a.isLiteral → (a.key = "" ↔ IsComplete a.name) ∧
        (isMissing properties implicit a.key ↔
          ¬IsComplete a.name ∧ implicit a.key = false ∧ ∀ p ∈ properties, p.name ≠ a.key)) ∧
      ((∀ a ∈ callArguments text, a.isLiteral → IsComplete a.name) →
        messages label tag properties implicit bound (parse text) =
          (parse text).methods.filterMap (methodMessage? label tag · properties) ++
            ((((callArguments text).filter (!·.isLiteral)).map Argument.key).filter
              (isMissing properties implicit)).map (keyMessage tag · bound)) := by
  refine ⟨fun raw => key_eq_empty_iff, fun text hkind => ?_⟩
  have hempty : ∀ a ∈ callArguments text, a.isLiteral → (a.key = "" ↔ IsComplete a.name) := by
    intro a ha hliteral
    obtain ⟨raw, rfl⟩ := exists_raw_of_mem ha
    exact key_eq_empty_iff hliteral
  refine ⟨keys_of_computed hkind, fun a ha hliteral => ⟨hempty a ha hliteral, ?_⟩, fun h => ?_⟩
  · rw [← hempty a ha hliteral]
    simp [isMissing]
  · have hkeys := filter_isMissing_key properties implicit
      fun a ha hliteral => (hempty a ha hliteral).2 (h a ha hliteral)
    rw [messages, keys_of_computed hkind, hkeys]

/-- A call with complete literals of both kinds and a path. -/
def reminder : String := "\x7b\x7bremind('due\\, \"soon\"', 12.5, task.title)\x7d\x7d"

/-- The method of the call. -/
def remind : Property := { name := "remind", type := "Function" }

theorem messages_reminder :
    (parse reminder).keys = ["", "", "task"] ∧
    messages "Computed Binding" "x-task" [remind] (fun _ => false) none (parse reminder) =
      ["Property task not found in 'properties' for element 'x-task'"] := by
  have hkind : (parse reminder).kind = .computed := by decide +kernel
  have hcomplete : ∀ a ∈ callArguments reminder, a.isLiteral → IsComplete a.name := by
    decide +kernel
  obtain ⟨hkeys, -, hmessages⟩ :=
    (literal_keys_empty_iff_complete "Computed Binding" "x-task" [remind] (fun _ => false)
      none).2 reminder hkind
  rw [hkeys, hmessages hcomplete]
  decide +kernel

/-- A number with an exponent has itself for its key, and is reported as a property. -/
theorem messages_exponent :
    (argument "1e5".toList).isLiteral ∧ (argument "1e5".toList).key = "1e5" ∧
    messages "Computed Binding" "x-task" [remind] (fun _ => false) none
        (parse "\x7b\x7bremind(1e5)\x7d\x7d") =
      ["Property 1e5 not found in 'properties' for element 'x-task'"] := by
  decide +kernel

end Rule.BoundVariables

end ComponentLint
