import ComponentLint.Proofs.NodeText

/-!
Where the nodes of a script stand in their document.

A byte offset of a script is turned into a line and a column by going through the text from its
start. Between two characters this gives the newlines of what lies before, and the characters of its
last line; the offsets of the script then make it a place of the document around it. Along the text
the places never go back.
-/

namespace ComponentLint.Script

/-! ### The last line of a text -/

lemma afterLast_append (sep : Char) (u v : List Char) :
    Text.afterLast sep (u ++ v) =
      if sep ∈ v then Text.afterLast sep v else Text.afterLast sep u ++ v := by
  have hall : (v.reverse.takeWhile (· ≠ sep)).length = v.reverse.length ↔ sep ∉ v := by
    rw [(List.takeWhile_sublist _).length_eq, List.takeWhile_eq_self_iff]
    simp only [List.mem_reverse, decide_eq_true_eq]
    exact ⟨fun h hmem => h sep hmem rfl, fun h c hc heq => h (heq ▸ hc)⟩
  rw [Text.afterLast, List.reverse_append, List.takeWhile_append]
  simp only [hall]
  split_ifs with hmem
  · rfl
  · rw [List.reverse_append, List.reverse_reverse]
    rfl

lemma afterLast_of_not_mem {sep : Char} {u : List Char} (h : sep ∉ u) :
    Text.afterLast sep u = u := by
  have happend := afterLast_append sep [] u
  rwa [if_neg h] at happend

/-! ### Going through a text -/

/-- The point after one more character. -/
def Point.next (p : Point) (c : Char) : Point :=
  if c = '\n' then ⟨p.row + 1, 0, 0⟩ else ⟨p.row, p.byteColumn + c.utf8Size, p.column + 1⟩

lemma advance_append (p : Point) (u v : List Char) :
    Point.advance p (byteLength u) (u ++ v) = u.foldl Point.next p := by
  induction u generalizing p with
  | nil => rw [byteLength, List.map_nil, List.sum_nil, Point.advance, List.foldl_nil]
  | cons c u ih =>
    have hpos : 0 < c.utf8Size := Char.utf8Size_pos c
    have hlength : byteLength (c :: u) = byteLength u + (c.utf8Size - 1) + 1 := by
      simp only [byteLength, List.map_cons, List.sum_cons]
      omega
    rw [hlength, List.cons_append, Point.advance, List.foldl_cons, Point.next]
    split_ifs with hc
    · subst hc
      exact ih _
    · have hmin : min c.utf8Size (byteLength u + (c.utf8Size - 1) + 1) = c.utf8Size := by omega
      have hrest : byteLength u + (c.utf8Size - 1) + 1 - c.utf8Size = byteLength u := by omega
      dsimp only
      rw [hmin, hrest]
      exact ih _

/-- **Between two characters** the point tells the newlines before it and the length of the line so
far. -/
lemma pointAt_append (u v : List Char) :
    (pointAt (u ++ v) (byteLength u)).row = u.count '\n' ∧
      (pointAt (u ++ v) (byteLength u)).column = (Text.afterLast '\n' u).length := by
  rw [pointAt, advance_append]
  clear v
  induction u using List.reverseRecOn with
  | nil => exact ⟨rfl, rfl⟩
  | append_singleton u c ih =>
    rw [List.foldl_append, List.foldl_cons, List.foldl_nil, Point.next, afterLast_append,
      List.count_append]
    by_cases hc : c = '\n'
    · subst hc
      simp [ih.1, Text.afterLast]
    · simp [hc, Ne.symm hc, ih.1, ih.2]

/-! ### Documents -/

/-- The place a text leads to from the start of a document: lines are counted from one, columns in
characters from zero. -/
def placeAfter (cs : List Char) : Location := ⟨1 + cs.count '\n', (Text.afterLast '\n' cs).length⟩

/-- A script that stands in a document after some text. -/
def standing (before : List Char) (root : Node) (text : List Char) (source : Option String) :
    Script where
  root := root
  text := String.ofList text
  source := source
  lineOffset := before.count '\n'
  columnOffset := (Text.afterLast '\n' before).length

/-- **Nodes are located in the document.** A node that starts at the `k`th character of a script is
at the line and the column of that character in the document the script stands in. -/
theorem locationOf_standing (before text after : List Char) (root : Node) (source : Option String)
    {n : Node} {k : ℕ} (hk : k ≤ text.length) (hn : n.start = byteLength (text.take k)) :
    (standing before root text source).locationOf n =
      placeAfter ((before ++ text ++ after).take (before.length + k)) := by
  have hread : (before ++ text ++ after).take (before.length + k) = before ++ text.take k := by
    rw [List.append_assoc, List.take_length_add_append, List.take_append_of_le_length hk]
  obtain ⟨hrow, hcolumn⟩ := pointAt_append (text.take k) (text.drop k)
  rw [List.take_append_drop, ← hn] at hrow hcolumn
  rw [hread, placeAfter, List.count_append, afterLast_append]
  simp only [locationOf, standing, String.toList_ofList, if_true, hrow, hcolumn, List.count_eq_zero]
  -- the column at which the script starts counts on its first line only
  split_ifs with hlater
  · push_cast
    congr 1
    ring
  · rw [afterLast_of_not_mem hlater, List.length_append]
    push_cast
    congr 1 <;> ring

/-- `é=1` and a line with `b`, in a document in which a line and two characters lie before. -/
theorem locationOf_secondLine :
    2 ≤ "é=1\nb".toList.length ∧ 4 ≤ "é=1\nb".toList.length ∧
    (standing "<p>\nüx".toList default "é=1\nb".toList none).locationOf
      (.mk "number" 3 4 none true []) = ⟨2, 4⟩ ∧
    (standing "<p>\nüx".toList default "é=1\nb".toList none).locationOf
      (.mk "identifier" 5 6 none true []) = ⟨3, 0⟩ := by
  have hfirst : 2 ≤ "é=1\nb".toList.length := by decide
  have hsecond : 4 ≤ "é=1\nb".toList.length := by decide
  refine ⟨hfirst, hsecond, ?_, ?_⟩
  · rw [locationOf_standing _ _ "</p>".toList _ _ hfirst (by decide)]
    decide
  · rw [locationOf_standing _ _ "</p>".toList _ _ hsecond (by decide)]
    decide

/-! ### Places in order -/

/-- A point on an earlier line than another, or on the same line and no further in it. -/
def Point.NotAfter (p q : Point) : Prop :=
  p.row < q.row ∨ p.row = q.row ∧ p.byteColumn ≤ q.byteColumn ∧ p.column ≤ q.column

lemma Point.NotAfter.refl (p : Point) : p.NotAfter p := Or.inr ⟨rfl, le_rfl, le_rfl⟩

lemma Point.NotAfter.trans {p q r : Point} (h : p.NotAfter q) (h' : q.NotAfter r) :
    p.NotAfter r := by
  unfold NotAfter at *
  omega

lemma notAfter_advance (p : Point) (n : ℕ) (cs : List Char) : p.NotAfter (p.advance n cs) := by
  fun_induction Point.advance p n cs with
  | case1 => exact .refl _
  | case2 p n => exact Or.inr ⟨rfl, Nat.le_add_right _ _, le_rfl⟩
  | case3 p n cs ih => exact Point.NotAfter.trans (q := ⟨p.row + 1, 0, 0⟩) (Or.inl (by simp)) ih
  | case4 p n c cs hc size ih =>
    exact Point.NotAfter.trans (q := ⟨p.row, p.byteColumn + min size (n + 1), p.column + 1⟩)
      (Or.inr ⟨rfl, by simp, by simp⟩) ih

/-- Further on in a text, a point does not come before. -/
lemma advance_mono {m n : ℕ} (h : m ≤ n) (p : Point) (cs : List Char) :
    (p.advance m cs).NotAfter (p.advance n cs) := by
  induction cs generalizing m n p with
  | nil =>
    cases m with
    | zero =>
      rw [Point.advance]
      exact notAfter_advance p n []
    | succ m =>
      obtain ⟨n, rfl⟩ : ∃ n', n = n' + 1 := ⟨n - 1, by omega⟩
      exact Or.inr ⟨rfl, Nat.add_le_add_left h _, le_rfl⟩
  | cons c cs ih =>
    cases m with
    | zero =>
      rw [Point.advance]
      exact notAfter_advance p n (c :: cs)
    | succ m =>
      obtain ⟨n, rfl⟩ : ∃ n', n = n' + 1 := ⟨n - 1, by omega⟩
      rw [Point.advance, Point.advance]
      split_ifs with hc
      · exact ih (by omega) _
      dsimp only
      by_cases hwhole : c.utf8Size ≤ m + 1
      · rw [Nat.min_eq_left hwhole, Nat.min_eq_left (by omega)]
        exact ih (by omega) _
      · -- the first offset lies inside the character, which counts all the same
        rw [Nat.sub_eq_zero_of_le (by omega), Point.advance]
        have hbytes : min c.utf8Size (m + 1) ≤ min c.utf8Size (n + 1) := min_le_min_left _ h
        exact Point.NotAfter.trans
          (q := ⟨p.row, p.byteColumn + min c.utf8Size (n + 1), p.column + 1⟩)
          (Or.inr ⟨rfl, Nat.add_le_add_left hbytes _, le_rfl⟩) (notAfter_advance _ _ cs)

lemma pointAt_mono {m n : ℕ} (h : m ≤ n) (cs : List Char) :
    (pointAt cs m).NotAfter (pointAt cs n) :=
  advance_mono h _ cs

end ComponentLint.Script

namespace ComponentLint

/-- Locations are in order by lines, and on a line by columns. -/
def Location.key (l : Location) : ℤ ×ₗ ℤ := toLex (l.line, l.column)

/-- **A node that starts further on is not located before.** -/
lemma Script.locationOf_mono (s : Script) {m n : Node} (h : m.start ≤ n.start) :
    (s.locationOf m).key ≤ (s.locationOf n).key := by
  have hpoint := pointAt_mono h s.text.toList
  unfold Point.NotAfter at hpoint
  rw [Location.key, Location.key, Prod.Lex.toLex_le_toLex]
  simp only [locationOf]
  split_ifs <;> omega

end ComponentLint
