import ComponentLint.Fault
import ComponentLint.Text.Digit

/-!
Syntax trees of scripts. A node has a kind, the byte range of its text, the name of the field it
fills in its parent, and children, of which the unnamed ones are punctuation. A path of field
names and child numbers leads from a node to a descendant.
-/

namespace ComponentLint.Script

inductive Node where
  | mk (kind : String) (start stop : Nat) (field : Option String) (named : Bool)
      (children : List Node)
  deriving Inhabited, Repr

namespace Node

def kind : Node → String
  | mk k _ _ _ _ _ => k

/-- The byte offset at which the node starts. -/
def start : Node → Nat
  | mk _ s _ _ _ _ => s

def stop : Node → Nat
  | mk _ _ e _ _ _ => e

/-- The field the node fills in its parent. -/
def field : Node → Option String
  | mk _ _ _ f _ _ => f

def isNamed : Node → Bool
  | mk _ _ _ _ n _ => n

def children : Node → List Node
  | mk _ _ _ _ _ cs => cs

def namedChildren (n : Node) : List Node := n.children.filter (·.isNamed)

/-- The first child that fills a field. -/
def child? (n : Node) (name : String) : Option Node := n.children.find? (·.field == some name)

mutual

def size : Node → Nat
  | mk _ _ _ _ _ cs => 1 + sizeAll cs

def sizeAll : List Node → Nat
  | [] => 0
  | n :: ns => n.size + sizeAll ns

end

theorem size_eq (n : Node) : n.size = 1 + sizeAll n.children := by
  cases n; simp [size, children]

theorem size_le_sizeAll {n : Node} : ∀ {ns : List Node}, n ∈ ns → n.size ≤ sizeAll ns
  | m :: ms, h => by
    rw [sizeAll]
    rcases List.mem_cons.1 h with rfl | h
    · omega
    · have := size_le_sizeAll h
      omega

theorem size_lt_of_mem_children {n c : Node} (h : c ∈ n.children) : c.size < n.size := by
  have := size_le_sizeAll h
  rw [n.size_eq]
  omega

theorem size_lt_of_child? {n c : Node} {name : String} (h : n.child? name = some c) :
    c.size < n.size :=
  size_lt_of_mem_children (List.mem_of_find?_eq_some h)

theorem sizeAll_append : ∀ ms ns : List Node, sizeAll (ms ++ ns) = sizeAll ms + sizeAll ns
  | [], ns => by simp [sizeAll]
  | m :: ms, ns => by
    have ih := sizeAll_append ms ns
    rw [List.cons_append, sizeAll, sizeAll, ih]
    omega

theorem sizeAll_filter_le (test : Node → Bool) :
    ∀ ns : List Node, sizeAll (ns.filter test) ≤ sizeAll ns
  | [] => by simp
  | n :: ns => by
    have ih := sizeAll_filter_le test ns
    by_cases h : test n <;> simp [h, sizeAll] <;> omega

theorem sizeAll_namedChildren_lt (n : Node) : sizeAll n.namedChildren < n.size := by
  have := sizeAll_filter_le (·.isNamed) n.children
  rw [n.size_eq, namedChildren]
  omega

/-! ### Walking -/

/-- Visits pending nodes in turn, each followed by its named children. -/
def visit : List Node → List Node
  | [] => []
  | n :: rest => n :: visit (n.namedChildren ++ rest)
termination_by pending => sizeAll pending
decreasing_by
  have := sizeAll_namedChildren_lt n
  rw [sizeAll_append, sizeAll]
  omega

/-- A node and its named descendants in the order of the text. -/
def walk (n : Node) : List Node := visit [n]

/-- Visits pending nodes like `visit`, each together with its parent. -/
def visitWithParents : List (Node × Option Node) → List (Node × Option Node)
  | [] => []
  | (n, parent) :: rest =>
    (n, parent) :: visitWithParents (n.namedChildren.map (·, some n) ++ rest)
termination_by pending => sizeAll (pending.map Prod.fst)
decreasing_by
  have := sizeAll_namedChildren_lt n
  simp only [List.map_append, List.map_map, Function.comp_def, List.map_id', List.map_cons,
    sizeAll_append, sizeAll]
  omega

def walkWithParents (n : Node) : List (Node × Option Node) := visitWithParents [(n, none)]

/-! ### Paths -/

/-- One step of a path: digits number the named children, anything else names a field. -/
def step (n : Node) (part : List Char) : Except Fault (Option Node) :=
  if part ≠ [] ∧ part.all Text.isDigit then
    if part.all Text.isDecimal ∧ part.length ≤ Number.digitLimit then
      .ok n.namedChildren[part.foldl (fun v c => v * 10 + (Text.decimalValue? c).getD 0) 0]?
    else .error (.crash .badText)
  else .ok (n.child? (String.ofList part))

/-- Follows the parts of a path as far as there is a node. -/
def follow : Node → List (List Char) → Except Fault (Option Node)
  | n, [] => .ok (some n)
  | n, part :: parts => do
    match ← n.step part with
    | none => return none
    | some c => c.follow parts

/-- Follows a dotted path. -/
def resolve (n : Node) (path : String) : Except Fault (Option Node) :=
  n.follow (Text.splitOn '.' path.toList)

/-- Whether two nodes have the same kind and range. -/
def same (a b : Node) : Bool := a.kind == b.kind && a.start == b.start && a.stop == b.stop

end Node

end ComponentLint.Script
