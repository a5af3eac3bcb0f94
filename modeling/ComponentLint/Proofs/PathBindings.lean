import ComponentLint.Proofs.CompoundText

/-!
Bindings to paths.

A path may be negated, go on after a point, name the event of a two-way binding and stand among
white space; its key is the name it is rooted at. The text around the binding does not matter as
long as no other bracket is in it.
-/

namespace ComponentLint.Binding

/-- White space on one line. -/
def IsBlankLine (s : List Char) : Prop := ∀ c ∈ s, Text.isSpace c ∧ c ≠ '\n'

/-- On one line, without a parenthesis that opens, colon, brace or bracket. -/
def IsTail (s : List Char) : Prop := ∀ c ∈ s, c ∉ ['\n', '(', ':', '{', '}', '[', ']']

instance (s : List Char) : Decidable (IsBlankLine s) := List.decidableBAll _ s

instance (s : List Char) : Decidable (IsTail s) := List.decidableBAll _ s

/-- A text with one binding in it, to a path. -/
structure PathBinding where
  bracket : Bracket
  before : List Char
  indent : List Char
  negations : ℕ
  name : List Char
  suffix : List Char
  gap : List Char
  event : Option (List Char)
  trail : List Char
  after : List Char
  before_noBracket : NoBracket before
  after_noBracket : NoBracket after
  indent_blank : IsBlankLine indent
  gap_blank : IsBlankLine gap
  trail_blank : IsBlankLine trail
  isName : IsName name
  suffix_tail : IsTail suffix
  suffix_head : ∀ c ∈ suffix.head?, c = '.'
  event_tail : ∀ e ∈ event, IsTail e

namespace PathBinding

/-- What the event is written as. -/
def eventChars (b : PathBinding) : List Char :=
  match b.event with
  | none => []
  | some e => ':' :: ':' :: e

/-- The path with the white space around it. -/
def path (b : PathBinding) : List Char :=
  b.indent ++ (List.replicate b.negations '!' ++ (b.name ++ (b.suffix ++
    (b.gap ++ (b.eventChars ++ b.trail)))))

def text (b : PathBinding) : String :=
  String.ofList (b.before ++ b.bracket.opening :: b.bracket.opening ::
    (b.path ++ b.bracket.closing :: b.bracket.closing :: b.after))

end PathBinding

/-! ### Parts of a path -/

lemma IsBlankLine.isPlain {s : List Char} (h : IsBlankLine s) : IsPlain s := by
  intro c hc hmem
  obtain ⟨hspace, hline⟩ := h c hc
  simp only [List.mem_cons, List.not_mem_nil, or_false] at hmem
  rcases hmem with rfl | rfl | rfl | rfl | rfl
  · exact hline rfl
  all_goals exact absurd hspace (by decide)

lemma IsBlankLine.not_mem {s : List Char} (h : IsBlankLine s) {d : Char}
    (hd : Text.isSpace d = false) : d ∉ s := by
  intro hmem
  have hspace := (h d hmem).1
  rw [hd] at hspace
  cases hspace

lemma IsBlankLine.append {s t : List Char} (hs : IsBlankLine s) (ht : IsBlankLine t) :
    IsBlankLine (s ++ t) :=
  List.forall_mem_append.2 ⟨hs, ht⟩

lemma IsTail.isPlain {s : List Char} (h : IsTail s) : IsPlain s := by
  intro c hc hmem
  refine h c hc ?_
  simp only [List.mem_cons] at hmem ⊢
  tauto

lemma IsTail.not_mem {s : List Char} (h : IsTail s) {d : Char}
    (hd : d ∈ ['\n', '(', ':', '{', '}', '[', ']']) : d ∉ s :=
  fun hmem => h d hmem hd

lemma isPlain_negations (n : ℕ) : IsPlain (List.replicate n '!') := by
  intro c hc
  rw [List.eq_of_mem_replicate hc]
  decide

namespace PathBinding

variable (b : PathBinding)

lemma isPlain_eventChars : IsPlain b.eventChars := by
  unfold eventChars
  split
  · exact List.forall_mem_nil _
  · rename_i e he
    have hplain : IsPlain e := (b.event_tail e he).isPlain
    exact List.forall_mem_cons.2 ⟨by decide, List.forall_mem_cons.2 ⟨by decide, hplain⟩⟩

lemma isPlain_path : IsPlain b.path := by
  simp only [path, isPlain_append]
  exact ⟨b.indent_blank.isPlain, isPlain_negations _, b.isName.isPlain, b.suffix_tail.isPlain,
    b.gap_blank.isPlain, b.isPlain_eventChars, b.trail_blank.isPlain⟩

/-! ### What is extracted -/

/-- Without the event, white space is all that is left after the suffix. -/
lemma exists_before_event : ∃ blank, IsBlankLine blank ∧
    Text.before [':', ':'] b.path =
      b.indent ++ (List.replicate b.negations '!' ++ (b.name ++ (b.suffix ++ blank))) := by
  set start := b.indent ++ (List.replicate b.negations '!' ++ (b.name ++ (b.suffix ++ b.gap)))
    with hstart
  have hpath : b.path = start ++ (b.eventChars ++ b.trail) := by
    simp only [path, hstart, List.append_assoc]
  have hcolon : ':' ∉ start := by
    have hindent : ':' ∉ b.indent := b.indent_blank.not_mem (by decide)
    have hgap : ':' ∉ b.gap := b.gap_blank.not_mem (by decide)
    have hname : ':' ∉ b.name := b.isName.not_mem (by decide)
    have hsuffix : ':' ∉ b.suffix := b.suffix_tail.not_mem (by decide)
    simp [hstart, hindent, hgap, hname, hsuffix, List.mem_replicate]
  rw [hpath, Text.before_append hcolon]
  cases hevent : b.event with
  | none =>
    have htrail : ':' ∉ b.trail := b.trail_blank.not_mem (by decide)
    refine ⟨b.gap ++ b.trail, b.gap_blank.append b.trail_blank, ?_⟩
    simp only [eventChars, hevent, List.nil_append]
    rw [Text.before_of_not_mem htrail]
    simp only [hstart, List.append_assoc]
  | some e =>
    have hcut : Text.before [':', ':'] (b.eventChars ++ b.trail) = [] := by
      simp [eventChars, hevent, Text.before, Text.cut, List.isPrefixOf]
    refine ⟨b.gap, b.gap_blank, ?_⟩
    rw [hcut, List.append_nil]

/-- The suffix keeps its point when white space after it is cut off. -/
lemma stripRight_suffix {blank : List Char} (hblank : IsBlankLine blank) :
    Text.stripRight (b.suffix ++ blank) = [] ∨
      ∃ rest, Text.stripRight (b.suffix ++ blank) = '.' :: rest := by
  cases hsuffix : b.suffix with
  | nil => exact Or.inl (Text.stripRight_eq_nil fun c hc => (hblank c hc).1)
  | cons c rest =>
    obtain rfl : c = '.' := b.suffix_head c (by simp [hsuffix])
    refine Or.inr ⟨Text.stripRight (rest ++ blank), ?_⟩
    have hpoint : ∀ c ∈ ['.'].getLast?, Text.isSpace c = false := by
      intro c hc
      obtain rfl : '.' = c := by simpa using hc
      decide
    exact Text.stripRight_append hpoint (rest ++ blank) (List.cons_ne_nil _ _)

/-- The negations and the name are extracted, and what is left of the suffix. -/
lemma extractChars_text : ∃ y, Expression.extractChars b.text.toList =
      some (List.replicate b.negations '!' ++ (b.name ++ y)) ∧
    '(' ∉ y ∧ y.takeWhile (· ≠ '.') = [] := by
  obtain ⟨blank, hblank, hbefore⟩ := b.exists_before_event
  have hname := b.isName.not_isSpace
  have hfirst : ∀ c ∈ (List.replicate b.negations '!' ++ b.name).head?,
      Text.isSpace c = false := by
    intro c hc
    rcases List.mem_append.1 (List.mem_of_mem_head? hc) with hmem | hmem
    · rw [List.eq_of_mem_replicate hmem]
      decide
    · exact hname c hmem
  have hlast : ∀ c ∈ (List.replicate b.negations '!' ++ b.name).getLast?,
      Text.isSpace c = false := by
    intro c hc
    rw [List.getLast?_append_of_ne_nil _ b.isName.ne_nil] at hc
    exact hname c (List.mem_of_mem_getLast? hc)
  refine ⟨Text.stripRight (b.suffix ++ blank), ?_, ?_, ?_⟩
  · rw [text, String.toList_ofList,
      extractChars_binding b.bracket b.before_noBracket b.isPlain_path b.after_noBracket, hbefore,
      Text.strip_blank_append fun c hc => (b.indent_blank c hc).1, ← List.append_assoc,
      Text.strip_append (by simp [b.isName.ne_nil]) hfirst hlast, List.append_assoc]
  · intro hmem
    rcases List.mem_append.1 (Text.mem_of_mem_stripRight hmem) with hsuffix | hmem
    · exact b.suffix_tail.not_mem (by decide) hsuffix
    · exact hblank.not_mem (by decide) hmem
  · rcases b.stripRight_suffix hblank with hnil | ⟨rest, hrest⟩
    · rw [hnil, List.takeWhile_nil]
    · rw [hrest, List.takeWhile_cons_of_neg (by simp)]

end PathBinding

/-- **A binding to a path is a reference to the name the path is rooted at**, however often it is
negated, whatever follows the name and whatever stands around it. -/
theorem parse_pathBinding (b : PathBinding) :
    Expression.parse b.text =
      { raw := b.text
        kind := .reference
        keys := [String.ofList b.name]
        methods := [] } := by
  obtain ⟨y, hextract, hparen, hpoint⟩ := b.extractChars_text
  have hkey : (b.name ++ y).takeWhile (· ≠ '.') = b.name := by
    rw [b.isName.takeWhile_append, hpoint, List.append_nil]
  have hcall : '(' ∉ b.name ++ y := by
    rw [List.mem_append, not_or]
    exact ⟨b.isName.not_mem (by decide), hparen⟩
  obtain ⟨c, cs, hname, hword, hdigit⟩ := b.isName.exists_cons
  rw [hname, List.cons_append] at hextract hkey hcall
  rw [Expression.parse_path b.negations hextract hword hdigit hcall, hkey, hname]

/-- A negated path with an event, in a text of two lines. -/
def hiddenBinding : PathBinding where
  bracket := .square
  before := "Is it\nhidden? ".toList
  indent := " ".toList
  negations := 2
  name := "state".toList
  suffix := ".hidden'".toList
  gap := " ".toList
  event := some "hidden-changed".toList
  trail := []
  after := " (or not)".toList
  before_noBracket := by decide
  after_noBracket := by decide
  indent_blank := by decide
  gap_blank := by decide
  trail_blank := by decide
  isName := by decide
  suffix_tail := by decide
  suffix_head := by simp
  event_tail := by decide

theorem parse_hiddenBinding :
    hiddenBinding.text = "Is it\nhidden? [[ !!state.hidden' ::hidden-changed]] (or not)" ∧
    (Expression.parse hiddenBinding.text).keys = ["state"] := by
  refine ⟨by decide +kernel, ?_⟩
  rw [parse_pathBinding]
  decide +kernel

end ComponentLint.Binding
