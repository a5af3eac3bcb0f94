import ComponentLint.Proofs.ImplicitKeys
import ComponentLint.Proofs.LiteralKeys
import ComponentLint.Proofs.PathBindings
import ComponentLint.Rule.UnbalancedDelimiters

/-!
Bindings to quoted texts.

A call is looked for in the whole of an expression before anything else is, so a quoted text is a
literal only if no call is found between the quotes. There is one as soon as a parenthesis opens and
one after it closes: then the word before the first that opens, even if it is empty, is taken for a
method, and what stands between it and the last that closes for arguments.
-/

namespace ComponentLint

/-- The last occurrence of a character on a line. -/
lemma Text.beforeLast_singleton {c : Char} (hc : c ≠ '\n') {w v : List Char} (hw : '\n' ∉ w)
    (hv : c ∉ v) : beforeLast [c] (w ++ c :: v) = some w := by
  induction w with
  | nil =>
    have hrest : beforeLast [c] v = none := by
      rw [← Option.not_isSome_iff_eq_none, isSome_beforeLast_iff _ _ (by simpa using hc)]
      rintro ⟨w, v', rfl, -⟩
      simp at hv
    rw [List.nil_append, beforeLast, if_neg hc, hrest]
    simp [List.isPrefixOf]
  | cons d w ih =>
    rw [List.mem_cons, not_or] at hw
    rw [List.cons_append, beforeLast, if_neg (Ne.symm hw.1), ih hw.2]

namespace Expression

open Binding (IsPlain isPlain_append isPlain_negations extractChars_binding)

/-! ### Calls inside a text -/

/-- A parenthesis opens, and one after it closes. -/
def HasParentheses (s : List Char) : Prop := ['(', ')'].Sublist s

instance (s : List Char) : Decidable (HasParentheses s) :=
  inferInstanceAs (Decidable (['(', ')'].Sublist s))

/-- What a call is taken for: the word characters right before the first parenthesis that opens,
and what stands between it and the last that closes. -/
def IsOuterCall (s method args : List Char) : Prop :=
  ∃ before after, s = before ++ (method ++ '(' :: (args ++ ')' :: after)) ∧ '(' ∉ before ∧
    (∀ c ∈ before.getLast?, Text.isWord c = false) ∧ IsMethod method ∧ ')' ∉ after

variable {s method args : List Char}

lemma exists_outerCall (h : HasParentheses s) : ∃ method args, IsOuterCall s method args := by
  obtain ⟨r₁, r₂, rfl, hopening, hclosing⟩ := List.cons_sublist_iff.1 h
  obtain ⟨start, middle, rfl, hfirst⟩ := List.eq_append_cons_of_mem hopening
  have hlater : ')' ∈ middle ++ r₂ :=
    List.mem_append_right _ (List.singleton_sublist.1 hclosing)
  obtain ⟨args, _, after, hargs, hlast, hafter⟩ :
      ∃ args x after, middle ++ r₂ = args ++ x :: after ∧ (x == ')') ∧ ∀ y ∈ after, ¬(y == ')') :=
    Binding.exists_last_of_exists ⟨')', hlater, beq_self_eq_true _⟩
  obtain rfl := beq_iff_eq.1 hlast
  have hword := List.rdropWhile_append_rtakeWhile (p := Text.isWord) (l := start)
  refine ⟨start.rtakeWhile Text.isWord, args, start.rdropWhile Text.isWord, after, ?_, ?_, ?_,
    fun c hc => List.mem_rtakeWhile_imp hc, fun hmem => hafter _ hmem (beq_self_eq_true _)⟩
  · rw [← hargs, ← List.append_assoc, hword, List.append_assoc, List.cons_append]
  · exact fun hmem => hfirst ((List.rdropWhile_prefix Text.isWord start).subset hmem)
  · intro c hc
    obtain ⟨hne, rfl⟩ := List.mem_getLast?_eq_getLast hc
    simpa using List.rdropWhile_last_not Text.isWord start hne

/-- No call starts where a character that is in no word comes before the first parenthesis. -/
lemma callHere_eq_none {u : List Char} (hne : u ≠ []) (hopening : '(' ∉ u)
    (hlast : ∀ c ∈ u.getLast?, Text.isWord c = false) (v : List Char) :
    callHere (u ++ v) = none := by
  have hdrop : u.dropWhile Text.isWord ≠ [] := by
    rw [Ne, List.dropWhile_eq_nil_iff]
    intro hall
    have hword := hall _ (List.getLast_mem hne)
    rw [hlast _ (List.getLast_mem_getLast? hne)] at hword
    cases hword
  obtain ⟨d, ds, hd⟩ := List.exists_cons_of_ne_nil hdrop
  have hparen : d ≠ '(' := by
    rintro rfl
    have hmem : '(' ∈ u.dropWhile Text.isWord := by simp [hd]
    exact hopening ((List.dropWhile_sublist _).subset hmem)
  have hrest : (u ++ v).dropWhile Text.isWord = d :: (ds ++ v) := by
    simp [List.dropWhile_append, hd]
  simp [callHere, hrest, hparen]

/-- The first call is taken up at the word before its parenthesis. -/
lemma IsOuterCall.call_eq (h : IsOuterCall s method args) (hline : '\n' ∉ s) :
    call s = some (method, args) := by
  obtain ⟨before, after, rfl, hopening, hlast, hmethod, hclosing⟩ := h
  induction before with
  | nil =>
    have hparen : ¬Text.isWord '(' := by decide
    have hargs : '\n' ∉ args := by
      simp only [List.mem_append, List.mem_cons, not_or] at hline
      exact hline.2.2.2.1
    have hhere : callHere (method ++ '(' :: (args ++ ')' :: after)) = some (method, args) := by
      rw [callHere, List.dropWhile_append_of_pos hmethod, List.dropWhile_cons_of_neg hparen,
        List.takeWhile_append_of_pos hmethod, List.takeWhile_cons_of_neg hparen, List.append_nil]
      simp only [Text.beforeLast_singleton (by decide : ')' ≠ '\n') hargs hclosing,
        Option.map_some]
    rw [List.nil_append]
    cases hchars : method ++ '(' :: (args ++ ')' :: after) with
    | nil => simp at hchars
    | cons c cs =>
      rw [call, ← hchars, hhere]
      rfl
  | cons d before ih =>
    have hhere := callHere_eq_none (List.cons_ne_nil d before) hopening hlast
      (method ++ '(' :: (args ++ ')' :: after))
    rw [List.cons_append] at hhere hline ⊢
    rw [List.mem_cons, not_or] at hopening hline
    rw [call, hhere]
    exact ih hline.2 hopening.2 fun c hc => hlast c (Text.getLast?_cons_eq_some.2 (Or.inr hc))

lemma hasParentheses_of_callHere {r : List Char × List Char} (h : callHere s = some r) :
    HasParentheses s := by
  rw [callHere] at h
  split at h
  · next rest hrest =>
    obtain ⟨args, hargs, -⟩ := Option.map_eq_some_iff.1 h
    obtain ⟨w, v, rfl, -⟩ :=
      (Text.isSome_beforeLast_iff [')'] rest (by decide)).1 (by simp [hargs])
    have hsub : ['(', ')'].Sublist ('(' :: (w ++ ([')'] ++ v))) := by simp
    rw [← hrest] at hsub
    exact hsub.trans (List.dropWhile_sublist _)
  · cases h

lemma hasParentheses_of_call {r : List Char × List Char} (h : call s = some r) :
    HasParentheses s := by
  induction s with
  | nil => cases h
  | cons c cs ih =>
    rw [call] at h
    cases hhere : callHere (c :: cs) with
    | some r' => exact hasParentheses_of_callHere hhere
    | none =>
      rw [hhere] at h
      exact (ih h).trans (List.sublist_cons_self c cs)

end Expression

namespace Binding

open Expression

/-! ### Delimiters around a plain text -/

lemma marks_eq_nil {opening closing : Char} {s : List Char} (ho : opening ∉ s) (hc : closing ∉ s) :
    marks opening closing s = [] := by
  induction s using runs_induction with
  | nil => rfl
  | run d n rest hd ih =>
    simp only [List.replicate_succ, List.cons_append, List.mem_cons, List.mem_append, not_or]
      at ho hc
    rw [marks_run _ _ hd, mark?_replicate, if_neg (Ne.symm ho.1), if_neg (Ne.symm hc.1),
      ih ho.2.2 hc.2.2]
    rfl

/-- The delimiters of a binding with no brace or bracket inside pair up. -/
lemma isUnbalancedChars_binding {w : List Char} (hne : w ≠ []) (hw : IsPlain w) :
    isUnbalancedChars ('{' :: '{' :: (w ++ ['}', '}'])) = false := by
  have hopening := hw.opening_not_mem
  have hclosing := hw.closing_not_mem
  have hhead : (w ++ ['}', '}']).head? ≠ some '{' := by
    rw [List.head?_append_of_ne_nil _ hne]
    exact fun h => hopening .curly (List.mem_of_mem_head? h)
  have happart : ∀ x ∈ w.getLast?, ∀ y ∈ ['}', '}'].head?, x ≠ y := by
    rintro x hx _ ⟨⟩ rfl
    exact hclosing .curly (List.mem_of_mem_getLast? hx)
  have hcurly : marks '{' '}' ('{' :: '{' :: (w ++ ['}', '}'])) = [⟨true, 2⟩, ⟨false, 2⟩] := by
    have hrun := marks_run '{' '}' (n := 1) hhead
    have hnone : marks '{' '}' w = [] := marks_eq_nil (hopening .curly) (hclosing .curly)
    rw [marks_append _ _ happart, hnone] at hrun
    exact hrun
  have hsquare : marks '[' ']' ('{' :: '{' :: (w ++ ['}', '}'])) = [] := by
    have hopening' : '[' ∉ w := hopening .square
    have hclosing' : ']' ∉ w := hclosing .square
    exact marks_eq_nil (by simp [hopening']) (by simp [hclosing'])
  rw [isUnbalancedChars_eq_false_iff_tidy, hcurly, hsquare]
  exact ⟨.pair (by omega) (by omega) .nil, .nil⟩

/-! ### The binding -/

/-- A binding to a text in quotes, negated any number of times. -/
structure QuotedBinding where
  negations : ℕ
  quote : Char
  body : List Char
  isQuote : isQuote quote
  isPlain : IsPlain body
  no_event : ¬[':', ':'] <:+: body

namespace QuotedBinding

variable (b : QuotedBinding)

def quoted : List Char := b.quote :: (b.body ++ [b.quote])

def chars : List Char := List.replicate b.negations '!' ++ b.quoted

def text : String := String.ofList ('{' :: '{' :: (b.chars ++ ['}', '}']))

lemma quote_cases : b.quote = '\'' ∨ b.quote = '"' := by
  simpa [Expression.isQuote] using b.isQuote

/-- A character other than the quote and the negation stands in the body. -/
lemma mem_chars {c : Char} (hc : c ∈ b.chars) : c = '!' ∨ c = b.quote ∨ c ∈ b.body := by
  simp only [chars, quoted, List.mem_append, List.mem_replicate, List.mem_cons,
    List.not_mem_nil, or_false] at hc
  tauto

lemma isPlain_chars : IsPlain b.chars := by
  intro c hc
  rcases b.mem_chars hc with rfl | rfl | hbody
  · decide
  · rcases b.quote_cases with h | h <;> rw [h] <;> decide
  · exact b.isPlain c hbody

/-- No event is cut off, since the colons of the body do not double at its quotes. -/
lemma before_chars : Text.before [':', ':'] b.chars = b.chars := by
  have hquote : b.quote ≠ ':' := by
    rcases b.quote_cases with h | h <;> rw [h] <;> decide
  have hstart : ':' ∉ List.replicate b.negations '!' ++ [b.quote] := by
    simp [List.mem_replicate, hquote.symm]
  have hrest : ¬[':', ':'] <:+: b.body ++ [b.quote] := by
    rw [List.infix_concat_iff, not_or]
    refine ⟨?_, b.no_event⟩
    rintro ⟨u, hu⟩
    have hlast := congrArg List.getLast? hu
    simp [hquote.symm] at hlast
  have hsplit : b.chars =
      (List.replicate b.negations '!' ++ [b.quote]) ++ (b.body ++ [b.quote]) := by
    simp [chars, quoted]
  rw [hsplit, Text.before_append hstart, Text.before_of_not_infix hrest]

lemma strip_chars : Text.strip b.chars = b.chars := by
  have hquote : Text.isSpace b.quote = false := by
    rcases b.quote_cases with h | h <;> rw [h] <;> decide
  refine Text.strip_of_ends (fun c hc => ?_) fun c hc => ?_
  · cases hn : b.negations with
    | zero =>
      obtain rfl : b.quote = c := by simpa [chars, quoted, hn] using hc
      exact hquote
    | succ n =>
      obtain rfl : '!' = c := by simpa [chars, quoted, hn, List.replicate_succ] using hc
      decide
  · have hconcat : b.chars =
        (List.replicate b.negations '!' ++ b.quote :: b.body) ++ [b.quote] := by
      simp [chars, quoted]
    rw [hconcat, List.getLast?_concat] at hc
    obtain rfl : b.quote = c := Option.some.inj hc
    exact hquote

lemma extractChars_text : extractChars b.text.toList = some b.chars := by
  have hbinding := extractChars_binding .curly (List.forall_mem_nil _) b.isPlain_chars
    (List.forall_mem_nil _)
  rw [b.before_chars, b.strip_chars] at hbinding
  rw [text, String.toList_ofList]
  exact hbinding

/-! ### What is parsed -/

lemma hasParentheses_chars : HasParentheses b.chars ↔ HasParentheses b.body := by
  have hquote : b.quote ≠ '(' ∧ b.quote ≠ ')' := by
    rcases b.quote_cases with h | h <;> rw [h] <;> decide
  constructor
  · intro h
    -- all other characters are dropped on both sides
    have hfilter := List.Sublist.filter (fun c => c = '(' ∨ c = ')') h
    have hchars : b.chars.filter (fun c => c = '(' ∨ c = ')') =
        b.body.filter fun c => c = '(' ∨ c = ')' := by
      simp [chars, quoted, List.filter_append, hquote]
    rw [hchars] at hfilter
    exact List.Sublist.trans hfilter List.filter_sublist
  · intro h
    have hbody : b.body.Sublist b.chars := by
      have hinfix : b.body <:+: b.chars :=
        ⟨List.replicate b.negations '!' ++ [b.quote], [b.quote], by simp [chars, quoted]⟩
      exact hinfix.sublist
    exact List.Sublist.trans h hbody

/-- The call in the body is the one that is found, since the quote belongs to no word. -/
lemma isOuterCall_chars {method args : List Char} (h : IsOuterCall b.body method args) :
    IsOuterCall b.chars method args := by
  obtain ⟨before, after, hbody, hopening, hlast, hmethod, hclosing⟩ := h
  have hquote : Text.isWord b.quote = false ∧ b.quote ≠ '(' ∧ b.quote ≠ ')' := by
    rcases b.quote_cases with h | h <;> rw [h] <;> decide
  refine ⟨List.replicate b.negations '!' ++ b.quote :: before, after ++ [b.quote], ?_, ?_, ?_,
    hmethod, ?_⟩
  · simp [chars, quoted, hbody]
  · simp [List.mem_replicate, hquote.2.1.symm, hopening]
  · intro c hc
    rw [List.getLast?_append_of_ne_nil _ (List.cons_ne_nil _ _)] at hc
    rcases Text.getLast?_cons_eq_some.1 hc with ⟨-, rfl⟩ | hc
    · exact hquote.1
    · exact hlast c hc
  · simp [hclosing, hquote.2.2.symm]

lemma isLiteral_quoted : isLiteral b.quoted := by
  have hlast : b.quoted.getLast? = some b.quote := by
    rw [quoted, ← List.cons_append, List.getLast?_concat]
  have hline : b.quote ≠ '\n' := by
    rcases b.quote_cases with h | h <;> rw [h] <;> decide
  have hdrop : dropFinalNewline b.quoted = b.quoted := by
    rw [dropFinalNewline, hlast, if_neg (by simpa using hline)]
  have hquoted : isQuoted b.quoted :=
    isQuoted_iff.2 ⟨_, _, _, rfl, b.isQuote, b.isQuote, b.isPlain.newline_not_mem⟩
  rw [isLiteral, hdrop, hquoted, Bool.true_or]

lemma parse_of_outerCall {method args : List Char} (h : IsOuterCall b.body method args) :
    parse b.text =
      { raw := b.text
        kind := .computed
        keys := (arguments args).map Argument.key
        methods := [String.ofList method] } := by
  have hcall := (b.isOuterCall_chars h).call_eq b.isPlain_chars.newline_not_mem
  simp only [parse, b.extractChars_text, Option.getD_some, hcall]
  rfl

lemma parse_of_not_hasParentheses (h : ¬HasParentheses b.body) :
    parse b.text = { raw := b.text, kind := .literal, keys := [""], methods := [] } := by
  have hbang : b.quote ≠ '!' := by
    rcases b.quote_cases with h | h <;> rw [h] <;> decide
  have hcall : call b.chars = none := by
    rw [Option.eq_none_iff_forall_ne_some]
    exact fun r hr => h (b.hasParentheses_chars.1 (hasParentheses_of_call hr))
  have hdrop : b.chars.dropWhile (· == '!') = b.quoted := by
    rw [chars, List.dropWhile_append_of_pos fun c hc => by simp [List.eq_of_mem_replicate hc],
      quoted, List.dropWhile_cons_of_neg (by simpa using hbang)]
  have hname : primaryName b.chars = [] := by
    have hliteral := b.isLiteral_quoted
    rw [chars, primaryName_negated]
    rw [quoted] at hliteral ⊢
    rw [primaryName, if_neg hbang, if_pos hliteral]
  simp only [parse, b.extractChars_text, Option.getD_some, hcall, hdrop, b.isLiteral_quoted, hname]
  rfl

lemma isUnbalanced_text : isUnbalanced b.text = false := by
  have hne : b.chars ≠ [] := by simp [chars, quoted]
  rw [isUnbalanced, text, String.toList_ofList]
  exact isUnbalancedChars_binding hne b.isPlain_chars

end QuotedBinding

end Binding

namespace Rule

open Binding Expression BoundVariables

lemma raw_parse (text : String) : (parse text).raw = text := by
  rw [parse]
  split <;> rfl

/-- The expression of an attribute or of a text is parsed from what is written there. -/
lemma exists_parse_of_mem_bindings {m : Model} {tag : String} {o : Occurrence}
    (h : o ∈ attributeBindings m tag ++ textBindings m tag) : ∃ text, o.parsed = parse text := by
  rcases List.mem_append.1 h with h | h
  · obtain ⟨⟨p, a⟩, -, ho⟩ := List.mem_filterMap.1 h
    dsimp only at ho
    split at ho
    · cases ho
    · next value _ =>
      split_ifs at ho
      cases ho
      exact ⟨value, rfl⟩
  · obtain ⟨p, -, ho⟩ := List.mem_filterMap.1 h
    dsimp only at ho
    split_ifs at ho
    cases ho
    exact ⟨textAt p, rfl⟩

lemma exists_parse_of_mem_sites {m : Model} {c : Component} {s : Site} (h : s ∈ sites m c) :
    ∃ text, s.parsed = parse text := by
  rcases List.mem_append.1 h with h | h
  · obtain ⟨o, ho, rfl⟩ := List.mem_map.1 h
    exact exists_parse_of_mem_bindings ho
  · obtain ⟨o, -, rfl⟩ := List.mem_map.1 h
    exact ⟨_, rfl⟩

/-- An expression without methods whose only key is empty is not reported. -/
lemma findings_of_literal {m : Model} {c : Component} {s : Site} (hmethods : s.parsed.methods = [])
    (hkeys : s.parsed.keys = [""]) : s.methodFindings c = [] ∧ s.dueKeys m c = [] := by
  refine ⟨by rw [Site.methodFindings, hmethods]; rfl, ?_⟩
  rw [List.eq_nil_iff_forall_not_mem]
  intro key hkey
  obtain ⟨hmem, hdue⟩ := Site.mem_dueKeys.1 hkey
  rw [hkeys, List.mem_singleton] at hmem
  exact hdue.1 hmem

/-- What is reported as unbalanced is so. -/
lemma isUnbalanced_of_mem_badBindings {m : Model} {tag : String} {o : BadOccurrence}
    (h : o ∈ badBindings m tag) : isUnbalanced o.expression := by
  rcases List.mem_append.1 h with h | h
  · obtain ⟨p, -, ho⟩ := List.mem_filterMap.1 h
    dsimp only at ho
    split_ifs at ho with hbad
    cases ho
    exact hbad
  · obtain ⟨⟨p, a⟩, -, ho⟩ := List.mem_filterMap.1 h
    dsimp only at ho
    split at ho
    · cases ho
    · split_ifs at ho with hbad
      cases ho
      exact hbad.2

/-- **A binding to a quoted text is a literal exactly when no parenthesis in the text opens with one
that closes after it.** Then no rule that looks at expressions reports it, at an attribute, in a
text or as an observer. Otherwise it is a call of the word before the first parenthesis. -/
theorem quotedBinding_literal_iff (b : QuotedBinding) :
    (parse b.text = { raw := b.text, kind := .literal, keys := [""], methods := [] } ↔
      ¬HasParentheses b.body) ∧
    (HasParentheses b.body → ∃ method args, IsOuterCall b.body method args) ∧
    (∀ method args, IsOuterCall b.body method args → parse b.text =
      { raw := b.text
        kind := .computed
        keys := (arguments args).map Argument.key
        methods := [String.ofList method] }) ∧
    (¬HasParentheses b.body → ∀ m c,
      checkComponent m c = (sites m c).flatMap
        (fun s => s.methodFindings c ++ (s.dueKeys m c).map (s.keyFinding c)) ∧
      ∀ s ∈ sites m c, s.parsed.raw = b.text → s.methodFindings c = [] ∧ s.dueKeys m c = []) ∧
    ∀ m tag, ∀ o ∈ badBindings m tag, o.expression ≠ b.text := by
  refine ⟨⟨fun hliteral hparentheses => ?_, b.parse_of_not_hasParentheses⟩, exists_outerCall,
    fun method args => b.parse_of_outerCall, fun hnone m c => ⟨checkComponent_eq_sites, ?_⟩, ?_⟩
  · obtain ⟨method, args, hcall⟩ := exists_outerCall hparentheses
    rw [b.parse_of_outerCall hcall] at hliteral
    cases congrArg Expression.kind hliteral
  · intro s hs hraw
    obtain ⟨text, hparsed⟩ := exists_parse_of_mem_sites hs
    rw [hparsed, raw_parse] at hraw
    rw [hraw, b.parse_of_not_hasParentheses hnone] at hparsed
    exact findings_of_literal (by rw [hparsed]) (by rw [hparsed])
  · rintro m tag o ho hexpression
    have hbad := isUnbalanced_of_mem_badBindings ho
    rw [hexpression, b.isUnbalanced_text] at hbad
    cases hbad

/-- A negated text in quotes whose parentheses close before they open. -/
def dueDate : QuotedBinding where
  negations := 2
  quote := '"'
  body := "due: 5) of (10, x.y".toList
  isQuote := by decide
  isPlain := by decide
  no_event := by decide +kernel

theorem parse_dueDate : ¬HasParentheses dueDate.body ∧
    parse dueDate.text =
      { raw := "\x7b\x7b!!\"due: 5) of (10, x.y\"\x7d\x7d"
        kind := .literal
        keys := [""]
        methods := [] } := by
  have hnone : ¬HasParentheses dueDate.body := by decide +kernel
  have htext : dueDate.text = "\x7b\x7b!!\"due: 5) of (10, x.y\"\x7d\x7d" := by decide +kernel
  refine ⟨hnone, ?_⟩
  rw [← htext]
  exact (quotedBinding_literal_iff dueDate).1.2 hnone

/-! ### A label with parentheses -/

/-- A text in quotes that ends in parentheses. -/
def saveAll : QuotedBinding where
  negations := 0
  quote := '\''
  body := "Save (all)".toList
  isQuote := by decide
  isPlain := by decide
  no_event := by decide +kernel

/-- It is a call of no method with the word between the parentheses, and reported as such. -/
theorem messages_saveAll :
    saveAll.text = "\x7b\x7b'Save (all)'\x7d\x7d" ∧
    parse saveAll.text =
      { raw := saveAll.text, kind := .computed, keys := ["all"], methods := [""] } ∧
    messages "Computed Binding" "x-card" [] (fun _ => false) none (parse saveAll.text) =
      ["Computed Binding method '' is not defined on element 'x-card'",
       "Property all not found in 'properties' for element 'x-card'"] := by
  decide +kernel

end Rule

end ComponentLint
