import ComponentLint.Proofs.BindingExtraction
import ComponentLint.Proofs.PathParsing

/-!
Texts with several bindings.

One expression is taken from a text, from its first opening to its last closing; curly brackets are
looked for first. With one binding in the brackets that lead, that binding is extracted and those in
the other brackets are not. With several, all from the first to the last of them is extracted.
-/

namespace ComponentLint.Binding

open Expression (inside extractChars)

/-! ### Texts -/

inductive Bracket where
  | curly
  | square
  deriving DecidableEq

def Bracket.opening : Bracket → Char
  | curly => '{'
  | square => '['

def Bracket.closing : Bracket → Char
  | curly => '}'
  | square => ']'

/-- No brace or bracket. -/
def NoBracket (s : List Char) : Prop := ∀ c ∈ s, c ∉ ['{', '}', '[', ']']

/-- No line end, brace or bracket. -/
def IsPlain (s : List Char) : Prop := ∀ c ∈ s, c ∉ ['\n', '{', '}', '[', ']']

/-- Word characters, the first of which is no digit. -/
def IsName (s : List Char) : Prop :=
  (∀ c ∈ s, Text.isWord c) ∧ s.head?.any fun c => !Text.isDecimal c

-- named, for otherwise the search settles on an instance that runs through all characters there are
instance (s : List Char) : Decidable (NoBracket s) := List.decidableBAll _ s

instance (s : List Char) : Decidable (IsPlain s) := List.decidableBAll _ s

instance (s : List Char) : Decidable (IsName s) :=
  @instDecidableAnd _ _ (List.decidableBAll _ s) inferInstance

/-- A binding to a name, and the text after it up to the next binding. -/
structure Segment where
  bracket : Bracket
  name : List Char
  after : List Char
  isName : IsName name
  isPlain : IsPlain after

def Segment.chars (b : Segment) : List Char :=
  b.bracket.opening :: b.bracket.opening ::
    (b.name ++ b.bracket.closing :: b.bracket.closing :: b.after)

/-- A text with bindings: what stands before the first, and the bindings. -/
structure Compound where
  start : List Char
  segments : List Segment
  isPlain : IsPlain start
  segments_ne_nil : segments ≠ []

namespace Compound

def chars (t : Compound) : List Char := t.start ++ t.segments.flatMap Segment.chars

/-- The brackets that are looked for first among those of the text. -/
def leadingBracket (t : Compound) : Bracket :=
  if t.segments.any (·.bracket = .curly) then .curly else .square

/-- The bindings in those brackets. -/
def leading (t : Compound) : List Segment :=
  t.segments.filter (·.bracket = t.leadingBracket)

end Compound

lemma isPlain_of_isWord {s : List Char} (h : ∀ c ∈ s, Text.isWord c) : IsPlain s := by
  intro c hc hmem
  have hne : ∀ d, Text.isWord d = false → c ≠ d := fun d => Text.ne_of_isWord (h c hc)
  simp only [List.mem_cons, List.not_mem_nil, or_false] at hmem
  rcases hmem with rfl | rfl | rfl | rfl | rfl <;> exact hne _ (by decide) rfl

lemma IsName.isPlain {s : List Char} (h : IsName s) : IsPlain s := isPlain_of_isWord h.1

lemma IsName.exists_cons {s : List Char} (h : IsName s) :
    ∃ c cs, s = c :: cs ∧ Text.isWord c ∧ Text.isDecimal c = false := by
  cases s with
  | nil => simp [IsName] at h
  | cons c cs => exact ⟨c, cs, rfl, h.1 c List.mem_cons_self, by simpa using h.2⟩

lemma IsName.not_mem {s : List Char} (h : IsName s) {d : Char} (hd : Text.isWord d = false) :
    d ∉ s :=
  fun hmem => Text.ne_of_isWord (h.1 d hmem) hd rfl

/-- The key of a name is read up to the first point after it. -/
lemma IsName.takeWhile_append {s : List Char} (h : IsName s) (t : List Char) :
    (s ++ t).takeWhile (· ≠ '.') = s ++ t.takeWhile (· ≠ '.') := by
  refine List.takeWhile_append_of_pos fun c hc => ?_
  simpa using fun hpoint : c = '.' => h.not_mem (by decide) (hpoint ▸ hc)

lemma NoBracket.opening_not_mem {s : List Char} (h : NoBracket s) (k : Bracket) :
    k.opening ∉ s := by
  intro hmem
  cases k <;> exact h _ hmem (by simp [Bracket.opening])

lemma NoBracket.closing_not_mem {s : List Char} (h : NoBracket s) (k : Bracket) :
    k.closing ∉ s := by
  intro hmem
  cases k <;> exact h _ hmem (by simp [Bracket.closing])

lemma isPlain_iff {s : List Char} : IsPlain s ↔ NoBracket s ∧ '\n' ∉ s := by
  simp only [IsPlain, NoBracket, List.mem_cons, not_or]
  refine ⟨fun h => ⟨fun c hc => (h c hc).2, fun hc => (h _ hc).1 rfl⟩, ?_⟩
  rintro ⟨hbracket, hline⟩ c hc
  exact ⟨fun hc' => hline (hc' ▸ hc), hbracket c hc⟩

lemma IsPlain.opening_not_mem {s : List Char} (h : IsPlain s) (k : Bracket) : k.opening ∉ s :=
  (isPlain_iff.1 h).1.opening_not_mem k

lemma IsPlain.closing_not_mem {s : List Char} (h : IsPlain s) (k : Bracket) : k.closing ∉ s :=
  (isPlain_iff.1 h).1.closing_not_mem k

lemma IsPlain.newline_not_mem {s : List Char} (h : IsPlain s) : '\n' ∉ s :=
  (isPlain_iff.1 h).2

lemma isPlain_append {s t : List Char} : IsPlain (s ++ t) ↔ IsPlain s ∧ IsPlain t :=
  List.forall_mem_append

lemma Segment.newline_not_mem (b : Segment) : '\n' ∉ b.chars := by
  have hname := b.isName.isPlain.newline_not_mem
  have hafter := b.isPlain.newline_not_mem
  cases hb : b.bracket <;>
    simp [Segment.chars, hb, Bracket.opening, Bracket.closing, hname, hafter]

lemma Segment.opening_not_mem {b : Segment} {k : Bracket} (h : b.bracket ≠ k) :
    k.opening ∉ b.chars := by
  have hname := b.isName.isPlain.opening_not_mem k
  have hafter := b.isPlain.opening_not_mem k
  cases hb : b.bracket <;> cases k <;>
    simp_all [Segment.chars, Bracket.opening, Bracket.closing]

lemma Segment.closing_not_mem {b : Segment} {k : Bracket} (h : b.bracket ≠ k) :
    k.closing ∉ b.chars := by
  have hname := b.isName.isPlain.closing_not_mem k
  have hafter := b.isPlain.closing_not_mem k
  cases hb : b.bracket <;> cases k <;>
    simp_all [Segment.chars, Bracket.opening, Bracket.closing]

/-- A parenthesis stands in none of the names. -/
lemma Segment.paren_mem_after {b : Segment} (h : '(' ∈ b.chars) : '(' ∈ b.after := by
  have hname : '(' ∉ b.name := b.isName.not_mem (by decide)
  cases hb : b.bracket <;>
    simpa [Segment.chars, hb, Bracket.opening, Bracket.closing, hname] using h

/-- What stands between the closing of a binding and the closing of a later one. -/
def Segment.between (first : Segment) (mid : List Segment) (last : Segment) : List Char :=
  first.after ++ mid.flatMap Segment.chars ++
    last.bracket.opening :: last.bracket.opening :: last.name

lemma newline_not_mem_flatMap (bs : List Segment) : '\n' ∉ bs.flatMap Segment.chars := by
  intro hmem
  obtain ⟨b, -, hmem⟩ := List.mem_flatMap.1 hmem
  exact b.newline_not_mem hmem

lemma Segment.newline_not_mem_between (first : Segment) (mid : List Segment) (last : Segment) :
    '\n' ∉ first.between mid last := by
  have hopening : '\n' ≠ last.bracket.opening := by cases last.bracket <;> decide
  simp only [between, List.mem_append, List.mem_cons, not_or]
  exact ⟨⟨first.isPlain.newline_not_mem, newline_not_mem_flatMap mid⟩, hopening, hopening,
    last.isName.isPlain.newline_not_mem⟩

/-- A parenthesis between bindings stands after one of them. -/
lemma Segment.paren_not_mem_between {first : Segment} {mid : List Segment}
    (h : ∀ s ∈ first :: mid, '(' ∉ s.after) (last : Segment) : '(' ∉ first.between mid last := by
  have hopening : '(' ≠ last.bracket.opening := by cases last.bracket <;> decide
  have hmid : '(' ∉ mid.flatMap Segment.chars := by
    intro hmem
    obtain ⟨s, hs, hmem⟩ := List.mem_flatMap.1 hmem
    exact h s (List.mem_cons_of_mem _ hs) (s.paren_mem_after hmem)
  simp only [between, List.mem_append, List.mem_cons, not_or]
  exact ⟨⟨h first List.mem_cons_self, hmid⟩, hopening, hopening, last.isName.not_mem (by decide)⟩

/-! ### Extraction -/

lemma IsName.not_isSpace {s : List Char} (h : IsName s) : ∀ c ∈ s, Text.isSpace c = false :=
  fun c hc => Text.isSpace_of_isWord (h.1 c hc)

lemma IsName.ne_nil {s : List Char} (h : IsName s) : s ≠ [] := by
  rintro rfl
  simp [IsName] at h

/-- A name is not cut short. -/
lemma IsName.strip_before {s : List Char} (h : IsName s) :
    Text.strip (Text.before [':', ':'] s) = s := by
  rw [Text.before_of_not_mem (h.not_mem (by decide))]
  exact Text.strip_of_ends (fun c hc => h.not_isSpace c (List.mem_of_mem_head? hc))
    fun c hc => h.not_isSpace c (List.mem_of_mem_getLast? hc)

/-- Nor is what follows a name before the closing brackets. -/
lemma IsName.strip_before_closing {s : List Char} (h : IsName s) (k : Bracket) (v : List Char) :
    Text.strip (Text.before [':', ':'] (s ++ k.closing :: k.closing :: v)) =
      s ++ k.closing :: k.closing :: Text.stripRight (Text.before [':', ':'] v) := by
  have hcolon : ':' ∉ s ++ [k.closing, k.closing] := by
    have hs : ':' ∉ s := h.not_mem (by decide)
    cases k <;> simp [hs, Bracket.closing]
  have hfirst : ∀ c ∈ (s ++ [k.closing, k.closing]).head?, Text.isSpace c = false := by
    intro c hc
    rw [List.head?_append_of_ne_nil _ h.ne_nil] at hc
    exact h.not_isSpace c (List.mem_of_mem_head? hc)
  have hlast : ∀ c ∈ (s ++ [k.closing, k.closing]).getLast?, Text.isSpace c = false := by
    intro c hc
    obtain rfl : k.closing = c := by simpa using hc
    cases k <;> decide
  have hstrip := Text.strip_before_append (by simp) hcolon hfirst hlast v
  simpa only [List.append_assoc, List.cons_append, List.nil_append] using hstrip

/-- What stands in brackets is extracted; curly ones are looked for first. -/
lemma extractChars_of_inside {k : Bracket} {s w : List Char} (hcurly : k = .square → '{' ∉ s)
    (h : inside k.opening k.closing s = some w) :
    extractChars s = some (Text.strip (Text.before [':', ':'] w)) := by
  cases k with
  | curly =>
    rw [extractChars, show inside '{' '}' s = some w from h]
    rfl
  | square =>
    have hnone : inside '{' '}' s = none := by
      rw [Expression.inside_eq_none_iff (by decide)]
      rintro u x v rfl
      have hbrace := hcurly rfl
      simp at hbrace
    rw [extractChars, hnone, show inside '[' ']' s = some w from h]
    rfl

/-- The only binding of a text is extracted. -/
lemma extractChars_binding {u w v : List Char} (k : Bracket) (hu : NoBracket u) (hw : IsPlain w)
    (hv : NoBracket v) :
    extractChars (u ++ k.opening :: k.opening :: (w ++ k.closing :: k.closing :: v)) =
      some (Text.strip (Text.before [':', ':'] w)) := by
  have hclosing : k.closing ≠ '\n' := by cases k <;> decide
  have hlast := Text.beforeLast_doubled hclosing hw.newline_not_mem (hv.closing_not_mem k)
  refine extractChars_of_inside ?_
    (Expression.inside_of_beforeLast (hu.opening_not_mem k) hlast)
  rintro rfl
  have hu' := hu.opening_not_mem .curly
  have hw' := hw.opening_not_mem .curly
  have hv' := hv.opening_not_mem .curly
  simp_all [Bracket.opening, Bracket.closing]

lemma exists_last_of_exists {α : Type} {test : α → Bool} {l : List α} (h : ∃ x ∈ l, test x) :
    ∃ before x after, l = before ++ x :: after ∧ test x ∧ ∀ y ∈ after, ¬test y := by
  have hsome : (l.reverse.find? test).isSome := by simpa using h
  obtain ⟨x, hx⟩ := Option.isSome_iff_exists.1 hsome
  obtain ⟨htest, after, before, hsplit, hafter⟩ := List.find?_eq_some_iff_append.1 hx
  refine ⟨before.reverse, x, after.reverse, ?_, htest, ?_⟩
  · simpa using congrArg List.reverse hsplit
  · intro y hy
    simpa using hafter y (List.mem_reverse.1 hy)

namespace Compound

variable {t : Compound}

lemma not_curly_of_leadingBracket (h : t.leadingBracket = .square) :
    ∀ b ∈ t.segments, b.bracket ≠ .curly := by
  unfold leadingBracket at h
  split_ifs at h with hany
  intro b hb hcurly
  exact hany (List.any_eq_true.2 ⟨b, hb, by simpa using hcurly⟩)

/-- Where the brackets that lead are square, no brace occurs. -/
lemma brace_not_mem (h : t.leadingBracket = .square) : '{' ∉ t.chars := by
  intro hmem
  rcases List.mem_append.1 hmem with hmem | hmem
  · exact t.isPlain.opening_not_mem .curly hmem
  · obtain ⟨b, hb, hmem⟩ := List.mem_flatMap.1 hmem
    exact Segment.opening_not_mem (not_curly_of_leadingBracket h b hb) hmem

/-- What is extracted runs from the first of the leading bindings to the last. -/
lemma inside_eq {pre rest : List Segment} {first : Segment} {k : Bracket} {w v : List Char}
    (hsplit : t.segments = pre ++ first :: rest) (hpre : ∀ b ∈ pre, b.bracket ≠ k)
    (hfirst : first.bracket = k)
    (hw : first.name ++ k.closing :: k.closing :: (first.after ++ rest.flatMap Segment.chars) =
      w ++ k.closing :: k.closing :: v)
    (hline : '\n' ∉ w) (hv : k.closing ∉ v) :
    inside k.opening k.closing t.chars = some w := by
  have hchars : t.chars = (t.start ++ pre.flatMap Segment.chars) ++
      k.opening :: k.opening :: (w ++ k.closing :: k.closing :: v) := by
    rw [← hw, ← hfirst]
    simp [chars, hsplit, Segment.chars]
  have hopening : k.opening ∉ t.start ++ pre.flatMap Segment.chars := by
    intro hmem
    rcases List.mem_append.1 hmem with hmem | hmem
    · exact t.isPlain.opening_not_mem k hmem
    · obtain ⟨b, hb, hmem⟩ := List.mem_flatMap.1 hmem
      exact Segment.opening_not_mem (hpre b hb) hmem
  have hclosing : k.closing ≠ '\n' := by cases k <;> decide
  rw [hchars]
  exact Expression.inside_of_beforeLast hopening (Text.beforeLast_doubled hclosing hline hv)

lemma closing_not_mem_flatMap {k : Bracket} {bs : List Segment} (h : ∀ b ∈ bs, b.bracket ≠ k) :
    k.closing ∉ bs.flatMap Segment.chars := by
  intro hmem
  obtain ⟨b, hb, hmem⟩ := List.mem_flatMap.1 hmem
  exact Segment.closing_not_mem (h b hb) hmem

/-- The first of the leading bindings has bindings in the other brackets before it. -/
lemma exists_first_leading {b : Segment} {more : List Segment} (h : t.leading = b :: more) :
    ∃ pre rest, t.segments = pre ++ b :: rest ∧ (∀ s ∈ pre, s.bracket ≠ t.leadingBracket) ∧
      b.bracket = t.leadingBracket ∧ rest.filter (·.bracket = t.leadingBracket) = more := by
  obtain ⟨pre, rest, hsplit, hpre, hb, hrest⟩ := List.filter_eq_cons_iff.1 h
  simp only [decide_eq_true_eq] at hpre hb
  exact ⟨pre, rest, hsplit, hpre, hb, hrest⟩

/-- The only leading binding has them on both sides. -/
lemma exists_only_leading {b : Segment} (h : t.leading = [b]) :
    ∃ pre rest, t.segments = pre ++ b :: rest ∧ (∀ s ∈ pre, s.bracket ≠ t.leadingBracket) ∧
      b.bracket = t.leadingBracket ∧ ∀ s ∈ rest, s.bracket ≠ t.leadingBracket := by
  obtain ⟨pre, rest, hsplit, hpre, hb, hrest⟩ := exists_first_leading h
  exact ⟨pre, rest, hsplit, hpre, hb, by simpa using List.filter_eq_nil_iff.1 hrest⟩

/-- The only leading binding is extracted. -/
lemma extractChars_single {b : Segment} (h : t.leading = [b]) :
    extractChars t.chars = some b.name := by
  obtain ⟨pre, rest, hsplit, hpre, hb, hrest⟩ := exists_only_leading h
  have hclosing : t.leadingBracket.closing ∉ b.after ++ rest.flatMap Segment.chars := by
    rw [List.mem_append, not_or]
    exact ⟨b.isPlain.closing_not_mem _, closing_not_mem_flatMap hrest⟩
  have hinside := inside_eq hsplit hpre hb rfl b.isName.isPlain.newline_not_mem hclosing
  rw [extractChars_of_inside brace_not_mem hinside, b.isName.strip_before]

/-- Of several leading bindings, all from the first to the last is extracted. -/
lemma extractChars_several {b b' : Segment} {more : List Segment}
    (h : t.leading = b :: b' :: more) :
    ∃ x, extractChars t.chars =
        some (b.name ++ t.leadingBracket.closing :: t.leadingBracket.closing :: x) ∧
      ((∀ s ∈ t.segments, '(' ∉ s.after) → '(' ∉ x) := by
  obtain ⟨pre, rest, hsplit, hpre, hb, hrest⟩ := exists_first_leading h
  have hlater : b' ∈ rest.filter (·.bracket = t.leadingBracket) := by
    rw [hrest]
    exact List.mem_cons_self
  obtain ⟨mid, last, post, rfl, hlast, hpost⟩ :=
    exists_last_of_exists ⟨b', List.mem_filter.1 hlater⟩
  simp only [decide_eq_true_eq] at hlast hpost
  set k := t.leadingBracket with hk
  have hw : b.name ++ k.closing :: k.closing ::
        (b.after ++ (mid ++ last :: post).flatMap Segment.chars) =
      (b.name ++ k.closing :: k.closing :: b.between mid last) ++
        k.closing :: k.closing :: (last.after ++ post.flatMap Segment.chars) := by
    simp [Segment.between, Segment.chars, hlast]
  have hline : '\n' ∉ b.name ++ k.closing :: k.closing :: b.between mid last := by
    have hne : '\n' ≠ k.closing := by cases k <;> decide
    simp only [List.mem_append, List.mem_cons, not_or]
    exact ⟨b.isName.isPlain.newline_not_mem, hne, hne, b.newline_not_mem_between mid last⟩
  have hclosing : k.closing ∉ last.after ++ post.flatMap Segment.chars := by
    rw [List.mem_append, not_or]
    exact ⟨last.isPlain.closing_not_mem _, closing_not_mem_flatMap hpost⟩
  have hinside := inside_eq hsplit hpre hb hw hline hclosing
  refine ⟨Text.stripRight (Text.before [':', ':'] (b.between mid last)), ?_, ?_⟩
  · rw [extractChars_of_inside brace_not_mem hinside, b.isName.strip_before_closing]
  · intro hparen hmem
    refine Segment.paren_not_mem_between (fun s hs => hparen s ?_) last
      ((Text.before_prefix _ _).subset (Text.mem_of_mem_stripRight hmem))
    rw [hsplit]
    simp only [List.mem_append, List.mem_cons] at hs ⊢
    tauto

lemma leading_ne_nil (t : Compound) : t.leading ≠ [] := by
  obtain ⟨b, bs, hbs⟩ := List.exists_cons_of_ne_nil t.segments_ne_nil
  have hmem : ∃ s ∈ t.segments, s.bracket = t.leadingBracket := by
    cases hlead : t.leadingBracket with
    | curly =>
      unfold leadingBracket at hlead
      split_ifs at hlead with hany
      simpa using hany
    | square =>
      have hb : b ∈ t.segments := by
        rw [hbs]
        exact List.mem_cons_self
      refine ⟨b, hb, ?_⟩
      cases hbracket : b.bracket with
      | curly => exact absurd hbracket (not_curly_of_leadingBracket hlead b hb)
      | square => rfl
  obtain ⟨s, hs, hbracket⟩ := hmem
  exact List.ne_nil_of_mem (List.mem_filter.2 ⟨hs, by simpa using hbracket⟩)

end Compound

end ComponentLint.Binding
