import ComponentLint.Proofs.SyntaxTree
import ComponentLint.Script.Language
import ComponentLint.Script.Located

/-!
The text of a node whose byte range falls between characters.

Such a text can always be read, and it is made of the characters that start inside the range.
-/

namespace ComponentLint.Script

def byteLength (cs : List Char) : ℕ := (cs.map Char.utf8Size).sum

/-- A byte offset between two characters of a text, at one of its ends or past it. -/
def IsBoundary (cs : List Char) (n : ℕ) : Prop :=
  byteLength cs ≤ n ∨ ∃ u ∈ cs.inits, byteLength u = n

instance (cs : List Char) (n : ℕ) : Decidable (IsBoundary cs n) :=
  inferInstanceAs (Decidable (_ ∨ _))

lemma IsBoundary.cons {c : Char} {cs : List Char} {n : ℕ} (h : IsBoundary (c :: cs) n)
    (hn : n ≠ 0) : c.utf8Size ≤ n ∧ IsBoundary cs (n - c.utf8Size) := by
  rcases h with hend | ⟨u, hu, rfl⟩
  · simp only [byteLength, List.map_cons, List.sum_cons] at hend
    exact ⟨by omega, Or.inl (by unfold byteLength; omega)⟩
  · rw [List.inits_cons, List.mem_cons] at hu
    rcases hu with rfl | hu
    · simp [byteLength] at hn
    · obtain ⟨v, hv, rfl⟩ := List.mem_map.1 hu
      simp only [byteLength, List.map_cons, List.sum_cons]
      exact ⟨by omega, Or.inr ⟨v, hv, by unfold byteLength; omega⟩⟩

/-- The characters of a text that start inside a byte range. -/
def charsIn : ℕ → ℕ → List Char → List Char
  | _, _, [] => []
  | start, stop, c :: cs =>
    (if start = 0 ∧ 0 < stop then [c] else []) ++
      charsIn (start - c.utf8Size) (stop - c.utf8Size) cs

lemma charsIn_eq_nil {start stop : ℕ} (h : stop ≤ start) (cs : List Char) :
    charsIn start stop cs = [] := by
  induction cs generalizing start stop with
  | nil => rfl
  | cons c cs ih =>
    rw [charsIn, ih (by omega), if_neg (by omega)]
    rfl

lemma takeBytes_eq {stop : ℕ} {cs : List Char} (h : IsBoundary cs stop) :
    takeBytes stop cs = some (charsIn 0 stop cs) := by
  induction cs generalizing stop with
  | nil => cases stop <;> rfl
  | cons c cs ih =>
    cases stop with
    | zero => rw [charsIn_eq_nil le_rfl, takeBytes]
    | succ n =>
      obtain ⟨hfit, hrest⟩ := h.cons (by omega)
      rw [takeBytes, if_pos hfit, ih hrest, charsIn]
      simp

lemma dropBytes_bind_takeBytes {start stop : ℕ} {cs : List Char} (hlt : start < stop)
    (hstart : IsBoundary cs start) (hstop : IsBoundary cs stop) :
    (dropBytes start cs).bind (takeBytes (stop - start)) = some (charsIn start stop cs) := by
  induction cs generalizing start stop with
  | nil =>
    rw [charsIn]
    cases start <;> cases h : stop - _ <;> simp [dropBytes, takeBytes]
  | cons c cs ih =>
    cases start with
    | zero =>
      rw [dropBytes, Option.bind_some, Nat.sub_zero]
      exact takeBytes_eq hstop
    | succ n =>
      obtain ⟨hfit, hstart'⟩ := hstart.cons (by omega)
      obtain ⟨-, hstop'⟩ := hstop.cons (by omega)
      have hwidth : stop - (n + 1) = stop - c.utf8Size - (n + 1 - c.utf8Size) := by omega
      rw [dropBytes, if_pos hfit, hwidth, ih (by omega) hstart' hstop', charsIn, if_neg (by omega)]
      rfl

lemma slice?_eq {start stop : ℕ} {cs : List Char} (hstart : IsBoundary cs start)
    (hstop : IsBoundary cs stop) : slice? cs start stop = some (charsIn start stop cs) := by
  unfold slice?
  split_ifs with hle
  · rw [charsIn_eq_nil hle]
  · exact dropBytes_bind_takeBytes (by omega) hstart hstop

/-! ### Scripts -/

/-- All byte ranges in a tree fall between characters of the text of a script. -/
def OnBoundaries (s : Script) (n : Node) : Prop :=
  ∀ m ∈ n.nodes, IsBoundary s.text.toList m.start ∧ IsBoundary s.text.toList m.stop

instance (s : Script) (n : Node) : Decidable (s.OnBoundaries n) :=
  inferInstanceAs (Decidable (∀ m ∈ n.nodes, _))

/-- What a node spells: the characters that start inside its range. -/
def spelling (s : Script) (n : Node) : String :=
  String.ofList (charsIn n.start n.stop s.text.toList)

variable {s : Script} {n c : Node}

lemma OnBoundaries.child (h : s.OnBoundaries n) (hc : c ∈ n.children) : s.OnBoundaries c :=
  fun m hm => h m (Node.nodes_subset_of_mem hc hm)

lemma OnBoundaries.child? {name : String} (h : s.OnBoundaries n) (hc : n.child? name = some c) :
    s.OnBoundaries c :=
  h.child (Node.mem_children_of_child? hc)

lemma OnBoundaries.visited {e : Node × Option Node} (h : s.OnBoundaries n)
    (he : e ∈ n.preorder none) : s.OnBoundaries e.1 :=
  fun m hm => h m (Node.nodes_subset_of_mem_preorder he hm)

/-- On boundaries the text of a node can be read. -/
lemma textOf_eq (h : s.OnBoundaries n) : s.textOf n = .ok (s.spelling n) := by
  obtain ⟨hstart, hstop⟩ := h n n.self_mem_nodes
  rw [textOf, slice?_eq hstart hstop]
  rfl

/-! ### Grammars -/

namespace Language

section

variable [Language]

/-- In the tree of a text, all byte ranges fall between characters of the text. -/
def FallsOnBoundaries : Prop := ∀ s : Script, s.root = parse s.text → s.OnBoundaries s.root

/-- Nodes of some kinds belong to the grammar. -/
def Knows (kinds : List String) : Prop := ∀ kind ∈ kinds, isKnown kind

instance (kinds : List String) : Decidable (Knows kinds) :=
  inferInstanceAs (Decidable (∀ kind ∈ kinds, _))

end

/-- A grammar given by the trees of some texts; any other text counts as empty. -/
abbrev ofTrees (kinds : List String) (trees : List (String × Node)) : Language where
  kinds := kinds
  parse text := (trees.lookup text).getD (.mk "program" 0 0 none true [])

lemma fallsOnBoundaries_ofTrees {kinds : List String} {trees : List (String × Node)}
    (h : ∀ e ∈ trees, Script.OnBoundaries { root := e.2, text := e.1 } e.2) :
    letI := ofTrees kinds trees; FallsOnBoundaries := by
  intro s hroot
  rw [hroot]
  change s.OnBoundaries ((trees.lookup s.text).getD _)
  cases hfind : trees.lookup s.text with
  | none =>
    have hzero : IsBoundary s.text.toList 0 := Or.inr ⟨[], by simp, rfl⟩
    simpa [OnBoundaries, Node.nodes, Node.nodesAll, Node.start, Node.stop] using hzero
  | some n =>
    obtain ⟨before, after, htrees, -⟩ := List.lookup_eq_some_iff.1 hfind
    exact h (s.text, n) (htrees ▸ List.mem_append_right _ List.mem_cons_self)

end Language

end ComponentLint.Script
