import ComponentLint.Binding.Delimiters
import Mathlib

/-!
Unbalanced delimiters as a property of runs.

Three detectors look at the text: one for an opening closed by a single character, one for the
mirror case on the reversed text, and one that takes doubled delimiters from left to right. Each of
them depends only on the maximal runs of the two characters. They all stay quiet exactly when the
runs, single ones apart, come in pairs with nothing between the two of a pair; seen from the other
end of the text, such a list of runs is one again.
-/

namespace ComponentLint.Binding

/-! ### Runs -/

/-- A maximal run of an opening or of a closing character. -/
structure Mark where
  opens : Bool
  length : ℕ
  deriving DecidableEq

/-- Whether a run is long enough to hold a delimiter. -/
def Mark.isDoubled (r : Mark) : Bool := 2 ≤ r.length

/-- A run as it is seen from the other end of the text. -/
def Mark.flip (r : Mark) : Mark := ⟨!r.opens, r.length⟩

def mark? (opening closing : Char) (run : List Char) : Option Mark :=
  if run.head? = some opening then some ⟨true, run.length⟩
  else if run.head? = some closing then some ⟨false, run.length⟩
  else none

/-- The maximal runs of two characters, from left to right. -/
def marks (opening closing : Char) (s : List Char) : List Mark :=
  (s.splitBy (· == ·)).filterMap (mark? opening closing)

lemma mark?_replicate (opening closing d : Char) (n : ℕ) :
    mark? opening closing (List.replicate (n + 1) d) =
      if d = opening then some ⟨true, n + 1⟩ else if d = closing then some ⟨false, n + 1⟩
      else none := by
  simp [mark?, List.replicate_succ]

/-- A text is empty, or a run and then a text that does not go on with it. -/
lemma runs_induction {P : List Char → Prop} (nil : P [])
    (run : ∀ d n rest, rest.head? ≠ some d → P rest → P (List.replicate (n + 1) d ++ rest))
    (s : List Char) : P s := by
  induction hlen : s.length using Nat.strong_induction_on generalizing s with
  | _ k ih =>
    cases s with
    | nil => exact nil
    | cons d cs =>
      have htake : cs.takeWhile (· == d) =
          List.replicate (cs.takeWhile (· == d)).length d := by
        refine List.eq_replicate_iff.2 ⟨rfl, fun b hb => ?_⟩
        simpa using List.mem_takeWhile_imp hb
      have hsplit : d :: cs = List.replicate ((cs.takeWhile (· == d)).length + 1) d ++
          cs.dropWhile (· == d) := by
        rw [List.replicate_succ, ← htake, List.cons_append, List.takeWhile_append_dropWhile]
      have hhead : (cs.dropWhile (· == d)).head? ≠ some d := by
        intro h
        have := List.head?_dropWhile_not (· == d) cs
        simp [h] at this
      have hshort : (cs.dropWhile (· == d)).length < k := by
        have := (List.dropWhile_sublist (· == d) (l := cs)).length_le
        simp only [List.length_cons] at hlen
        omega
      rw [hsplit]
      exact run _ _ _ hhead (ih _ hshort _ rfl)

section Runs

variable (opening closing : Char)

@[simp] lemma marks_nil : marks opening closing [] = [] := rfl

lemma marks_append {l m : List Char} (h : ∀ x ∈ l.getLast?, ∀ y ∈ m.head?, x ≠ y) :
    marks opening closing (l ++ m) = marks opening closing l ++ marks opening closing m := by
  unfold marks
  rw [List.splitBy_append, List.filterMap_append]
  intro x hx y hy
  simpa using h x hx y hy

lemma marks_replicate (d : Char) (n : ℕ) :
    marks opening closing (List.replicate (n + 1) d) =
      (mark? opening closing (List.replicate (n + 1) d)).toList := by
  have hchain : (List.replicate (n + 1) d).IsChain fun x y => (x == y) = true :=
    List.isChain_replicate_of_rel _ (by simp)
  rw [marks, List.splitBy_of_isChain (by simp) hchain]
  cases h : mark? opening closing (List.replicate (n + 1) d) <;> simp [h]

lemma marks_run {d : Char} {n : ℕ} {rest : List Char} (h : rest.head? ≠ some d) :
    marks opening closing (List.replicate (n + 1) d ++ rest) =
      (mark? opening closing (List.replicate (n + 1) d)).toList ++ marks opening closing rest := by
  rw [marks_append, marks_replicate]
  intro x hx y hy hxy
  have hd : x = d := List.eq_of_mem_replicate (List.mem_of_mem_getLast? hx)
  rw [← hxy, hd] at hy
  exact h hy

lemma length_pos_of_mem_marks {s : List Char} {r : Mark} (h : r ∈ marks opening closing s) :
    0 < r.length := by
  obtain ⟨run, hrun, hr⟩ := List.mem_filterMap.1 h
  have hpos : 0 < run.length := List.length_pos_iff.2 (List.ne_nil_of_mem_splitBy hrun)
  unfold mark? at hr
  split_ifs at hr <;> cases hr <;> exact hpos

end Runs

/-- The runs of a text that is turned round, one character for another. -/
def mirrored (ms : List Mark) : List Mark := (ms.map Mark.flip).reverse

lemma mark?_map {f : Char → Char} (hf : f.Injective) {opening closing : Char}
    (hne : opening ≠ closing) (d : Char) (n : ℕ) :
    mark? (f closing) (f opening) (List.replicate (n + 1) (f d)) =
      (mark? opening closing (List.replicate (n + 1) d)).map Mark.flip := by
  by_cases ho : d = opening
  · subst ho
    simp [mark?_replicate, Mark.flip, hf.ne hne]
  · by_cases hc : d = closing
    · subst hc
      simp [mark?_replicate, Mark.flip, hne.symm]
    · simp [mark?_replicate, hf.ne ho, hf.ne hc, ho, hc]

lemma marks_reverse_map {f : Char → Char} (hf : f.Injective) {opening closing : Char}
    (hne : opening ≠ closing) (s : List Char) :
    marks (f closing) (f opening) (s.reverse.map f) = mirrored (marks opening closing s) := by
  induction s using runs_induction with
  | nil => rfl
  | run d n rest hd ih =>
    have hlast : ∀ x ∈ (rest.reverse.map f).getLast?,
        ∀ y ∈ (List.replicate (n + 1) (f d)).head?, x ≠ y := by
      intro x hx y hy hxy
      rw [List.getLast?_map, List.getLast?_reverse] at hx
      obtain ⟨z, hz, rfl⟩ := Option.map_eq_some_iff.1 hx
      have hy' : y = f d := List.eq_of_mem_replicate (List.mem_of_mem_head? hy)
      exact hd (hz.trans (congrArg some (hf (hxy.trans hy'))))
    rw [List.reverse_append, List.reverse_replicate, List.map_append, List.map_replicate,
      marks_append _ _ hlast, marks_replicate, mark?_map hf hne, ih, marks_run _ _ hd, mirrored,
      mirrored, List.map_append, List.reverse_append]
    cases mark? opening closing (List.replicate (n + 1) d) <;> rfl

/-! ### The detectors on runs -/

/-- The first closing run is a single character. -/
def ClosesSingly (ms : List Mark) : Prop :=
  ∃ (inner : List Mark) (b : Mark) (after : List Mark), ms = inner ++ b :: after ∧
    (∀ r ∈ inner, r.opens) ∧ b.opens = false ∧ b.length = 1

/-- Some doubled opening is closed by a single character. -/
def SingleClose (ms : List Mark) : Prop :=
  ∃ (before : List Mark) (a : Mark) (rest : List Mark), ms = before ++ a :: rest ∧
    a.opens ∧ a.isDoubled ∧ ClosesSingly rest

/-- The doubled delimiters in the runs, each as whether it opens. -/
def delimitersOf (ms : List Mark) : List Bool :=
  ms.flatMap fun r => List.replicate (r.length / 2) r.opens

lemma not_closesSingly_nil : ¬ClosesSingly [] := by
  rintro ⟨inner, b, after, h, -⟩
  simp at h

lemma closesSingly_cons (a : Mark) (ms : List Mark) : ClosesSingly (a :: ms) ↔
    (a.opens = false ∧ a.length = 1) ∨ (a.opens ∧ ClosesSingly ms) := by
  constructor
  · rintro ⟨inner, b, after, h, hinner, hb, hlen⟩
    cases inner with
    | nil =>
      cases h
      exact Or.inl ⟨hb, hlen⟩
    | cons r inner =>
      cases h
      exact Or.inr ⟨hinner _ (by simp), inner, b, after, rfl, fun x hx => hinner x (by simp [hx]),
        hb, hlen⟩
  · rintro (⟨ha, hlen⟩ | ⟨ha, inner, b, after, rfl, hinner, hb, hlen⟩)
    · exact ⟨[], a, ms, rfl, by simp, ha, hlen⟩
    · exact ⟨a :: inner, b, after, rfl, by simpa using ⟨ha, hinner⟩, hb, hlen⟩

lemma not_singleClose_nil : ¬SingleClose [] := by
  rintro ⟨before, a, rest, h, -⟩
  simp at h

lemma singleClose_cons (a : Mark) (ms : List Mark) : SingleClose (a :: ms) ↔
    (a.opens ∧ a.isDoubled ∧ ClosesSingly ms) ∨ SingleClose ms := by
  constructor
  · rintro ⟨before, b, rest, h, hb⟩
    cases before with
    | nil =>
      cases h
      exact Or.inl hb
    | cons r before =>
      cases h
      exact Or.inr ⟨before, b, rest, rfl, hb⟩
  · rintro (ha | ⟨before, b, rest, rfl, hb⟩)
    · exact ⟨[], a, ms, rfl, ha⟩
    · exact ⟨a :: before, b, rest, rfl, hb⟩

section Detectors

variable {opening closing : Char}

lemma closesSingly_other {d : Char} (h : d ≠ closing) (n : ℕ) (rest : List Char) :
    closesSingly closing (List.replicate n d ++ rest) = closesSingly closing rest := by
  rw [closesSingly, List.dropWhile_append_of_pos, closesSingly]
  intro x hx
  simpa [List.eq_of_mem_replicate hx] using h

lemma closesSingly_closing {n : ℕ} {rest : List Char} (h : rest.head? ≠ some closing) :
    closesSingly closing (List.replicate (n + 1) closing ++ rest) = decide (n = 0) := by
  cases n with
  | zero => simpa [closesSingly] using h
  | succ n => simp [closesSingly, List.replicate_succ]

lemma closesSingly_iff (hne : opening ≠ closing) (s : List Char) :
    closesSingly closing s ↔ ClosesSingly (marks opening closing s) := by
  induction s using runs_induction with
  | nil => simp [closesSingly, not_closesSingly_nil]
  | run d n rest hd ih =>
    rw [marks_run _ _ hd]
    by_cases hc : d = closing
    · subst hc
      simp [closesSingly_closing hd, mark?_replicate, hne.symm, closesSingly_cons]
    · rw [closesSingly_other hc]
      by_cases ho : d = opening
      · subst ho
        simp [mark?_replicate, closesSingly_cons, ih]
      · simp [mark?_replicate, hc, ho, ih]

lemma not_isPrefixOf_doubled {e d : Char} (h : d ≠ e) (cs : List Char) :
    [e, e].isPrefixOf (d :: cs) = false := by
  simp [List.isPrefixOf, h.symm]

/-- A character that is not repeated starts no delimiter. -/
lemma not_isPrefixOf_doubled_single {e d : Char} {rest : List Char} (h : rest.head? ≠ some d) :
    [e, e].isPrefixOf (d :: rest) = false := by
  cases rest with
  | nil => simp [List.isPrefixOf]
  | cons c rest =>
    have hcd : c ≠ d := by simpa using h
    simp only [List.isPrefixOf, Bool.and_true, Bool.and_eq_false_iff, beq_eq_false_iff_ne]
    by_cases he : e = d
    · exact Or.inr (he ▸ hcd.symm)
    · exact Or.inl he

lemma hasSingleClose_other {d : Char} (h : d ≠ opening) (n : ℕ) (rest : List Char) :
    hasSingleClose opening closing (List.replicate n d ++ rest) =
      hasSingleClose opening closing rest := by
  induction n with
  | zero => rfl
  | succ n ih =>
    rw [List.replicate_succ, List.cons_append, hasSingleClose, not_isPrefixOf_doubled h, ih]
    rfl

lemma hasSingleClose_opening (hne : opening ≠ closing) {n : ℕ} {rest : List Char}
    (h : rest.head? ≠ some opening) :
    hasSingleClose opening closing (List.replicate (n + 1) opening ++ rest) =
      (decide (2 ≤ n + 1) && closesSingly closing rest || hasSingleClose opening closing rest) := by
  induction n with
  | zero =>
    rw [List.replicate_one, List.singleton_append, hasSingleClose,
      not_isPrefixOf_doubled_single h]
    rfl
  | succ n ih =>
    rw [List.replicate_succ, List.cons_append, hasSingleClose, ih]
    rw [List.replicate_succ, List.cons_append, List.drop_one, List.tail_cons,
      closesSingly_other hne]
    cases closesSingly closing rest <;> simp [List.isPrefixOf]

lemma hasSingleClose_iff (hne : opening ≠ closing) (s : List Char) :
    hasSingleClose opening closing s ↔ SingleClose (marks opening closing s) := by
  induction s using runs_induction with
  | nil => simp [hasSingleClose, not_singleClose_nil]
  | run d n rest hd ih =>
    rw [marks_run _ _ hd]
    by_cases ho : d = opening
    · subst ho
      simp [hasSingleClose_opening hne hd, mark?_replicate, singleClose_cons, ih,
        closesSingly_iff hne, Mark.isDoubled]
    · rw [hasSingleClose_other ho]
      by_cases hc : d = closing
      · subst hc
        simp [mark?_replicate, ho, singleClose_cons, ih]
      · simp [mark?_replicate, hc, ho, ih]

lemma delimiters_other {d : Char} (ho : d ≠ opening) (hc : d ≠ closing) (n : ℕ)
    (rest : List Char) :
    delimiters opening closing false (List.replicate n d ++ rest) =
      delimiters opening closing false rest := by
  induction n with
  | zero => rfl
  | succ n ih =>
    rw [List.replicate_succ, List.cons_append, delimiters, not_isPrefixOf_doubled ho,
      not_isPrefixOf_doubled hc]
    exact ih

/-- A run gives as many delimiters as it has pairs of characters. -/
lemma delimiters_run {d : Char} (hd : d = opening ∨ d = closing) {rest : List Char}
    (h : rest.head? ≠ some d) (n : ℕ) :
    delimiters opening closing false (List.replicate n d ++ rest) =
      List.replicate (n / 2) (d == opening) ++ delimiters opening closing false rest := by
  induction n using Nat.twoStepInduction with
  | zero => rfl
  | one =>
    have hnot := fun e => not_isPrefixOf_doubled_single (e := e) h
    rw [List.replicate_one, List.singleton_append, delimiters, hnot, hnot]
    rfl
  | more n ih _ =>
    have hhalf : (n + 2) / 2 = n / 2 + 1 := by omega
    rw [List.replicate_succ, List.replicate_succ, List.cons_append, List.cons_append, hhalf,
      List.replicate_succ, List.cons_append, ← ih]
    rcases hd with rfl | rfl
    · simp [delimiters, List.isPrefixOf]
    · by_cases ho : d = opening
      · simp [delimiters, List.isPrefixOf, ho]
      · simp [delimiters, List.isPrefixOf, ho, Ne.symm ho]

lemma delimiters_eq (s : List Char) :
    delimiters opening closing false s = delimitersOf (marks opening closing s) := by
  induction s using runs_induction with
  | nil => rfl
  | run d n rest hd ih =>
    rw [marks_run _ _ hd]
    by_cases ho : d = opening
    · subst ho
      simp [delimiters_run (Or.inl rfl) hd, mark?_replicate, delimitersOf, ih]
    · by_cases hc : d = closing
      · subst hc
        simp [delimiters_run (Or.inr rfl) hd, mark?_replicate, ho, delimitersOf, ih]
      · simp [delimiters_other ho hc, mark?_replicate, ho, hc, ih]

end Detectors

/-! ### Runs that pair up -/

/-- Runs that pair up: none is longer than three; the doubled ones alternate, from an opening to a
closing; and nothing single stands between a doubled opening and the next doubled closing. -/
structure Paired (ms : List Mark) : Prop where
  short : ∀ r ∈ ms, r.length ≤ 3
  alternating : ∃ k, (ms.filter Mark.isDoubled).map Mark.opens =
    (List.replicate k [true, false]).flatten
  clear : ∀ (before : List Mark) (a : Mark) (inner : List Mark) (b : Mark) (after : List Mark),
    ms = before ++ a :: (inner ++ b :: after) →
    a.opens → a.isDoubled → b.opens = false → b.isDoubled →
    (∀ r ∈ inner, r.isDoubled → r.opens) → ∀ r ∈ inner, r.length ≠ 1

/-- Runs that pair up, one after the other: single runs, and a doubled opening with a doubled
closing right after it. -/
inductive Tidy : List Mark → Prop
  | nil : Tidy []
  | single {r : Mark} {ms : List Mark} : r.length = 1 → Tidy ms → Tidy (r :: ms)
  | pair {m n : ℕ} {ms : List Mark} : m = 2 ∨ m = 3 → n = 2 ∨ n = 3 → Tidy ms →
      Tidy (⟨true, m⟩ :: ⟨false, n⟩ :: ms)

lemma Mark.length_eq_one {r : Mark} (hpos : 0 < r.length) (h : ¬r.isDoubled) : r.length = 1 := by
  simp only [isDoubled, decide_eq_true_eq] at h
  omega

/-- The first doubled run, after single ones. -/
lemma exists_first_doubled {ms : List Mark} (hpos : ∀ r ∈ ms, 0 < r.length)
    (h : ∃ r ∈ ms, r.isDoubled) :
    ∃ (inner : List Mark) (b : Mark) (after : List Mark), ms = inner ++ b :: after ∧
      b.isDoubled ∧ ∀ r ∈ inner, r.length = 1 := by
  obtain ⟨b, hfind⟩ := Option.isSome_iff_exists.1 (List.find?_isSome.2 h)
  obtain ⟨hb, inner, after, rfl, hinner⟩ := List.find?_eq_some_iff_append.1 hfind
  refine ⟨inner, b, after, rfl, hb, fun r hr => ?_⟩
  exact Mark.length_eq_one (hpos r (List.mem_append_left _ hr)) (by simpa using hinner r hr)

namespace Tidy

lemma append {ms ns : List Mark} (h : Tidy ms) (h' : Tidy ns) : Tidy (ms ++ ns) := by
  induction h with
  | nil => exact h'
  | single hr _ ih => exact .single hr ih
  | pair hm hn _ ih => exact .pair hm hn ih

lemma mirrored {ms : List Mark} (h : Tidy ms) : Tidy (mirrored ms) := by
  induction h with
  | nil => exact .nil
  | single hr _ ih =>
    rw [Binding.mirrored, List.map_cons, List.reverse_cons]
    exact ih.append (.single hr .nil)
  | pair hm hn _ ih =>
    rw [Binding.mirrored, List.map_cons, List.map_cons, List.reverse_cons, List.reverse_cons,
      List.append_assoc]
    exact ih.append (.pair hn hm .nil)

lemma alternates {ms : List Mark} (h : Tidy ms) : alternates (delimitersOf ms) := by
  induction h with
  | nil => rfl
  | single hr _ ih => simpa [delimitersOf, hr] using ih
  | @pair m n ms hm hn _ ih =>
    have hm' : m / 2 = 1 := by omega
    have hn' : n / 2 = 1 := by omega
    simpa [delimitersOf, hm', hn', Binding.alternates] using ih

lemma not_singleClose {ms : List Mark} (h : Tidy ms) : ¬SingleClose ms := by
  induction h with
  | nil => exact not_singleClose_nil
  | single hr _ ih => simpa [singleClose_cons, Mark.isDoubled, hr] using ih
  | @pair m n ms hm hn _ ih =>
    have hn' : n ≠ 1 := by omega
    simpa [singleClose_cons, closesSingly_cons, hn'] using ih

end Tidy

/-- No single run stands between a doubled opening and the doubled closing after it. -/
def Clear (ms : List Mark) : Prop :=
  ∀ (before : List Mark) (a : Mark) (inner : List Mark) (b : Mark) (after : List Mark),
    ms = before ++ a :: (inner ++ b :: after) →
    a.opens → a.isDoubled → b.opens = false → b.isDoubled → (∀ r ∈ inner, r.length = 1) →
    inner = []

lemma Clear.of_append (ms : List Mark) {ns : List Mark} (h : Clear (ms ++ ns)) : Clear ns := by
  rintro before a inner b after rfl
  exact h (ms ++ before) a inner b after (List.append_assoc ..).symm

lemma delimitersOf_append (ms ns : List Mark) :
    delimitersOf (ms ++ ns) = delimitersOf ms ++ delimitersOf ns :=
  List.flatMap_append

lemma delimitersOf_singles {ms : List Mark} (h : ∀ r ∈ ms, r.length = 1) :
    delimitersOf ms = [] := by
  refine List.flatMap_eq_nil_iff.2 fun r hr => ?_
  simp [h r hr]

/-- A doubled run gives one delimiter or more. -/
lemma exists_delimitersOf_cons {r : Mark} (h : r.isDoubled) (ms : List Mark) :
    ∃ i, r.length / 2 = i + 1 ∧
      delimitersOf (r :: ms) = r.opens :: (List.replicate i r.opens ++ delimitersOf ms) := by
  have hr : 2 ≤ r.length := by simpa [Mark.isDoubled] using h
  obtain ⟨i, hi⟩ : ∃ i, r.length / 2 = i + 1 := ⟨r.length / 2 - 1, by omega⟩
  refine ⟨i, hi, ?_⟩
  rw [delimitersOf, List.flatMap_cons, hi]
  rfl

/-- Where delimiters alternate, a doubled run gives one opening. -/
lemma opens_of_alternates {a : Mark} {ms : List Mark} (ha : a.isDoubled)
    (h : alternates (delimitersOf (a :: ms))) :
    ∃ m, a = ⟨true, m⟩ ∧ (m = 2 ∨ m = 3) ∧ alternates (true :: delimitersOf ms) := by
  obtain ⟨opens, m⟩ := a
  obtain ⟨i, hi, hcons⟩ := exists_delimitersOf_cons ha ms
  rw [hcons] at h
  cases opens with
  | false => simp [alternates] at h
  | true =>
    cases i with
    | zero => exact ⟨m, rfl, by dsimp only at hi; omega, h⟩
    | succ i => simp [List.replicate_succ, alternates] at h

/-- After an opening it gives one closing. -/
lemma closes_of_alternates {b : Mark} {ms : List Mark} (hb : b.isDoubled)
    (h : alternates (true :: delimitersOf (b :: ms))) :
    ∃ n, b = ⟨false, n⟩ ∧ (n = 2 ∨ n = 3) ∧ alternates (delimitersOf ms) := by
  obtain ⟨opens, n⟩ := b
  obtain ⟨j, hj, hcons⟩ := exists_delimitersOf_cons hb ms
  rw [hcons] at h
  cases opens with
  | true => simp [alternates] at h
  | false =>
    cases j with
    | zero => exact ⟨n, rfl, by dsimp only at hj; omega, h⟩
    | succ j => simp [List.replicate_succ, alternates] at h

/-- Where delimiters alternate, a doubled run opens, and the next doubled one closes. -/
lemma exists_closing {a : Mark} {ms : List Mark} (hpos : ∀ r ∈ ms, 0 < r.length)
    (ha : a.isDoubled) (h : alternates (delimitersOf (a :: ms))) :
    ∃ (m n : ℕ) (inner after : List Mark), a = ⟨true, m⟩ ∧ ms = inner ++ ⟨false, n⟩ :: after ∧
      (m = 2 ∨ m = 3) ∧ (n = 2 ∨ n = 3) ∧ (∀ r ∈ inner, r.length = 1) ∧
      alternates (delimitersOf after) := by
  obtain ⟨m, rfl, hm, h⟩ := opens_of_alternates ha h
  have hdoubled : ∃ r ∈ ms, r.isDoubled := by
    by_contra hnone
    have hones : ∀ r ∈ ms, r.length = 1 := fun r hr =>
      Mark.length_eq_one (hpos r hr) fun hr' => hnone ⟨r, hr, hr'⟩
    rw [delimitersOf_singles hones] at h
    simp [alternates] at h
  obtain ⟨inner, b, after, rfl, hb, hinner⟩ := exists_first_doubled hpos hdoubled
  rw [delimitersOf_append, delimitersOf_singles hinner, List.nil_append] at h
  obtain ⟨n, rfl, hn, halt⟩ := closes_of_alternates hb h
  exact ⟨m, n, inner, after, rfl, rfl, hm, hn, hinner, halt⟩

/-- Runs whose delimiters alternate, with nothing inside a pair, are tidy. -/
lemma tidy_of_clear {ms : List Mark} (hpos : ∀ r ∈ ms, 0 < r.length)
    (halt : alternates (delimitersOf ms)) (hclear : Clear ms) : Tidy ms := by
  induction hlen : ms.length using Nat.strong_induction_on generalizing ms with
  | _ k ih =>
    cases ms with
    | nil => exact .nil
    | cons a ms =>
      have hpos' : ∀ r ∈ ms, 0 < r.length := fun r hr => hpos r (List.mem_cons_of_mem _ hr)
      simp only [List.length_cons] at hlen
      by_cases ha : a.isDoubled
      · obtain ⟨m, n, inner, after, rfl, rfl, hm, hn, hinner, halt'⟩ :=
          exists_closing hpos' ha halt
        have hdoubled : Mark.isDoubled ⟨false, n⟩ := by
          simp only [Mark.isDoubled, decide_eq_true_eq]
          omega
        obtain rfl : inner = [] :=
          hclear [] _ inner _ after rfl rfl ha rfl hdoubled hinner
        have hafter : Clear after := hclear.of_append [_, _]
        refine .pair hm hn (ih after.length ?_ ?_ halt' hafter rfl)
        · simp only [List.nil_append, List.length_cons] at hlen
          omega
        · intro r hr
          exact hpos' r (by simp [hr])
      · have hone : a.length = 1 := Mark.length_eq_one (hpos a List.mem_cons_self) ha
        have halt' : alternates (delimitersOf ms) := by
          simpa [delimitersOf, hone] using halt
        exact .single hone
          (ih ms.length (by omega) hpos' halt' (hclear.of_append [_]) rfl)

/-! ### The detectors and the pairing -/

lemma closesSingly_of_mem {inner : List Mark} (hones : ∀ r ∈ inner, r.length = 1)
    (h : ∃ r ∈ inner, r.opens = false) (rest : List Mark) : ClosesSingly (inner ++ rest) := by
  induction inner with
  | nil => simp at h
  | cons a inner ih =>
    rw [List.cons_append, closesSingly_cons]
    cases ha : a.opens with
    | false => exact Or.inl ⟨rfl, hones a List.mem_cons_self⟩
    | true =>
      obtain ⟨r, hr, hopens⟩ := h
      have hr' : r ∈ inner := by
        rcases List.mem_cons.1 hr with rfl | hr
        · rw [ha] at hopens
          cases hopens
        · exact hr
      exact Or.inr ⟨rfl, ih (fun x hx => hones x (List.mem_cons_of_mem _ hx)) ⟨r, hr', hopens⟩⟩

/-- A single run inside a pair sets off one of the two detectors of single characters: that of
closings if it closes, else that of openings, from the other end. -/
lemma clear_of_not_singleClose {ms : List Mark} (hclose : ¬SingleClose ms)
    (hopen : ¬SingleClose (mirrored ms)) : Clear ms := by
  rintro before a inner b after rfl ha hadoubled hb hbdoubled hinner
  by_contra hne
  by_cases hcloses : ∃ r ∈ inner, r.opens = false
  · exact hclose ⟨before, a, _, rfl, ha, hadoubled, closesSingly_of_mem hinner hcloses _⟩
  · obtain ⟨inner, x, rfl⟩ := (List.eq_nil_or_concat inner).resolve_left hne
    have hx : x.opens := by
      by_contra hx
      exact hcloses ⟨x, by simp, by simpa using hx⟩
    refine hopen ⟨mirrored after, b.flip, x.flip :: mirrored (before ++ a :: inner), ?_, ?_, ?_, ?_⟩
    · simp [mirrored]
    · simpa [Mark.flip] using hb
    · exact hbdoubled
    · rw [closesSingly_cons]
      exact Or.inl ⟨by simpa [Mark.flip] using hx, by simpa [Mark.flip] using hinner x (by simp)⟩

lemma quiet_iff_tidy {ms : List Mark} (hpos : ∀ r ∈ ms, 0 < r.length) :
    (alternates (delimitersOf ms) ∧ ¬SingleClose ms ∧ ¬SingleClose (mirrored ms)) ↔ Tidy ms := by
  constructor
  · rintro ⟨halt, hclose, hopen⟩
    exact tidy_of_clear hpos halt (clear_of_not_singleClose hclose hopen)
  · intro h
    exact ⟨h.alternates, h.not_singleClose, h.mirrored.not_singleClose⟩

lemma delimitersOf_of_short {ms : List Mark} (hshort : ∀ r ∈ ms, r.length ≤ 3) :
    delimitersOf ms = (ms.filter Mark.isDoubled).map Mark.opens := by
  induction ms with
  | nil => rfl
  | cons a ms ih =>
    have ih' := ih fun r hr => hshort r (List.mem_cons_of_mem _ hr)
    have ha := hshort a List.mem_cons_self
    rw [delimitersOf, List.flatMap_cons, List.filter_cons]
    by_cases hdoubled : a.isDoubled
    · have hone : a.length / 2 = 1 := by
        simp only [Mark.isDoubled, decide_eq_true_eq] at hdoubled
        omega
      rw [if_pos hdoubled, hone, List.map_cons, ← ih']
      rfl
    · have hzero : a.length / 2 = 0 := by
        simp only [Mark.isDoubled, decide_eq_true_eq] at hdoubled
        omega
      rw [if_neg hdoubled, hzero, ← ih']
      rfl

lemma alternates_flatten_replicate (k : ℕ) :
    alternates (List.replicate k [true, false]).flatten := by
  induction k with
  | zero => rfl
  | succ k ih => exact ih

lemma Paired.tidy {ms : List Mark} (hpos : ∀ r ∈ ms, 0 < r.length) (h : Paired ms) :
    Tidy ms := by
  obtain ⟨k, hk⟩ := h.alternating
  refine tidy_of_clear hpos ?_ ?_
  · rw [delimitersOf_of_short h.short, hk]
    exact alternates_flatten_replicate k
  · intro before a inner b after heq ha hadoubled hb hbdoubled hones
    have hnone := h.clear before a inner b after heq ha hadoubled hb hbdoubled fun r hr hr' => by
      simp [Mark.isDoubled, hones r hr] at hr'
    exact List.eq_nil_iff_forall_not_mem.2 fun r hr => hnone r hr (hones r hr)

lemma Tidy.short {ms : List Mark} (h : Tidy ms) : ∀ r ∈ ms, r.length ≤ 3 := by
  induction h with
  | nil => simp
  | single hr _ ih => exact List.forall_mem_cons.2 ⟨by omega, ih⟩
  | @pair m n ms hm hn _ ih =>
    exact List.forall_mem_cons.2 ⟨by show m ≤ 3; omega,
      List.forall_mem_cons.2 ⟨by show n ≤ 3; omega, ih⟩⟩

lemma Tidy.alternating {ms : List Mark} (h : Tidy ms) :
    ∃ k, (ms.filter Mark.isDoubled).map Mark.opens = (List.replicate k [true, false]).flatten := by
  induction h with
  | nil => exact ⟨0, rfl⟩
  | single hr _ ih => simpa [Mark.isDoubled, hr] using ih
  | @pair m n ms hm hn _ ih =>
    obtain ⟨k, hk⟩ := ih
    have hm' : 2 ≤ m := by omega
    have hn' : 2 ≤ n := by omega
    exact ⟨k + 1, by simp [Mark.isDoubled, hm', hn', List.replicate_succ, ← hk]⟩

lemma Tidy.paired {ms : List Mark} (h : Tidy ms) : Paired ms := by
  refine ⟨h.short, h.alternating, ?_⟩
  intro before a inner b after heq ha hadoubled hb hbdoubled hinner
  induction h generalizing before with
  | nil => simp at heq
  | single hr _ ih =>
    cases before with
    | nil =>
      cases heq
      simp [Mark.isDoubled, hr] at hadoubled
    | cons x before =>
      cases heq
      exact ih before rfl
  | pair hm hn _ ih =>
    match before, inner with
    | [], [] => simp
    | [], x :: inner =>
      cases heq
      have hopens := hinner _ List.mem_cons_self
      simp [Mark.isDoubled] at hopens
      omega
    | [x], _ =>
      cases heq
      simp at ha
    | x :: y :: before, _ =>
      cases heq
      exact ih before rfl

lemma paired_iff_tidy {ms : List Mark} (hpos : ∀ r ∈ ms, 0 < r.length) : Paired ms ↔ Tidy ms :=
  ⟨Paired.tidy hpos, Tidy.paired⟩

/-! ### Texts -/

/-- The detectors for one kind of delimiter are quiet. -/
lemma quiet_iff_tidy_marks {opening closing : Char} (hne : opening ≠ closing) (s : List Char) :
    (hasSingleClose opening closing s = false ∧
      hasSingleClose closing opening s.reverse = false ∧
      isUnpaired opening closing s = false) ↔ Tidy (marks opening closing s) := by
  have hreverse := marks_reverse_map Function.injective_id hne s
  rw [List.map_id, id, id] at hreverse
  rw [← quiet_iff_tidy fun r hr => length_pos_of_mem_marks opening closing hr,
    ← delimiters_eq, ← hasSingleClose_iff hne, ← hreverse, ← hasSingleClose_iff hne.symm]
  simp only [isUnpaired, Bool.not_eq_eq_eq_not, Bool.not_false, Bool.not_eq_true]
  constructor
  · rintro ⟨hclose, hopen, halt⟩
    exact ⟨halt, hclose, hopen⟩
  · rintro ⟨halt, hclose, hopen⟩
    exact ⟨hclose, hopen, halt⟩

lemma isUnbalancedChars_eq_false_iff_tidy (s : List Char) : isUnbalancedChars s = false ↔
    Tidy (marks '{' '}' s) ∧ Tidy (marks '[' ']' s) := by
  rw [← quiet_iff_tidy_marks (by decide), ← quiet_iff_tidy_marks (by decide)]
  simp only [isUnbalancedChars, Bool.or_eq_false_iff]
  constructor
  · rintro ⟨⟨⟨⟨⟨hc, hc'⟩, ho⟩, ho'⟩, hp⟩, hp'⟩
    exact ⟨⟨hc, ho, hp⟩, hc', ho', hp'⟩
  · rintro ⟨⟨hc, ho, hp⟩, hc', ho', hp'⟩
    exact ⟨⟨⟨⟨⟨hc, hc'⟩, ho⟩, ho'⟩, hp⟩, hp'⟩

/-- The detectors of both kinds are quiet exactly when the runs of both kinds pair up. -/
lemma isUnbalancedChars_eq_false_iff (s : List Char) : isUnbalancedChars s = false ↔
    Paired (marks '{' '}' s) ∧ Paired (marks '[' ']' s) := by
  rw [isUnbalancedChars_eq_false_iff_tidy,
    paired_iff_tidy fun r hr => length_pos_of_mem_marks _ _ hr,
    paired_iff_tidy fun r hr => length_pos_of_mem_marks _ _ hr]

@[simp] lemma unbalanced?_eq_none {text : String} :
    unbalanced? text = none ↔ isUnbalanced text = false := by
  simp [unbalanced?]

@[simp] lemma unbalanced?_eq_some {text : String} :
    unbalanced? text = some text ↔ isUnbalanced text = true := by
  simp [unbalanced?]

/-- Each opening character for its closing one and each closing one for its opening one. -/
def opposite (c : Char) : Char :=
  if c = '{' then '}' else if c = '}' then '{' else if c = '[' then ']'
  else if c = ']' then '[' else c

lemma opposite_opposite (c : Char) : opposite (opposite c) = c := by
  by_cases h : c = '{' ∨ c = '}' ∨ c = '[' ∨ c = ']'
  · rcases h with rfl | rfl | rfl | rfl <;> rfl
  · simp only [not_or] at h
    simp [opposite, h]

/-- The text read backwards, with opening and closing characters exchanged. -/
def mirror (text : String) : String := String.ofList (text.toList.reverse.map opposite)

lemma tidy_mirror {opening closing : Char} (hne : opening ≠ closing)
    (hopposite : opposite opening = closing) {s : List Char} (h : Tidy (marks opening closing s)) :
    Tidy (marks opening closing (s.reverse.map opposite)) := by
  have hmarks := marks_reverse_map (Function.LeftInverse.injective opposite_opposite) hne s
  rw [← hopposite, opposite_opposite] at hmarks
  rw [← hopposite, hmarks, hopposite]
  exact h.mirrored

lemma isUnbalanced_mirror {text : String} (h : isUnbalanced text = false) :
    isUnbalanced (mirror text) = false := by
  rw [isUnbalanced, isUnbalancedChars_eq_false_iff_tidy] at h ⊢
  rw [mirror, String.toList_ofList]
  exact ⟨tidy_mirror (by decide) (by decide) h.1, tidy_mirror (by decide) (by decide) h.2⟩

lemma mirror_mirror (text : String) : mirror (mirror text) = text := by
  have hid : opposite ∘ opposite = id := funext opposite_opposite
  simp [mirror, ← List.map_reverse, hid]

/-- **The delimiters of a text pair up exactly when their runs do**, for both kinds; the verdict is
the same from either end of the text, and a text whose delimiters do not pair up is given back. -/
theorem unbalanced?_eq_none_iff (text : String) :
    (unbalanced? text = none ↔
      Paired (marks '{' '}' text.toList) ∧ Paired (marks '[' ']' text.toList)) ∧
    (unbalanced? (mirror text) = none ↔ unbalanced? text = none) ∧
    (unbalanced? text ≠ none → unbalanced? text = some text) := by
  refine ⟨?_, ?_, ?_⟩
  · rw [unbalanced?_eq_none, isUnbalanced, isUnbalancedChars_eq_false_iff]
  · rw [unbalanced?_eq_none, unbalanced?_eq_none]
    refine ⟨fun h => ?_, isUnbalanced_mirror⟩
    have hback := isUnbalanced_mirror h
    rwa [mirror_mirror] at hback
  · intro h
    rw [Ne, unbalanced?_eq_none, Bool.not_eq_false] at h
    exact unbalanced?_eq_some.2 h

end ComponentLint.Binding
