import ComponentLint.Script.Node
import Mathlib

/-!
Syntax trees as lists of nodes.

The walk over a script keeps its pending nodes in a list. Here the same nodes are listed by
recursion on the tree, and two facts about that list are derived: the walk visits it, and every
visited node but the root is visited as a named child of exactly one visited node.
-/

namespace ComponentLint.Script.Node

/-! ### The named nodes in pre-order -/

mutual

/-- A node and its named descendants, parents before children and children from left to right,
each with the node it was reached from. -/
def preorder (parent : Option Node) : Node → List (Node × Option Node)
  | mk k s e f b cs => (mk k s e f b cs, parent) :: preorderAll (mk k s e f b cs) cs

/-- The pre-orders of the named nodes among the children of a node. -/
def preorderAll (parent : Node) : List Node → List (Node × Option Node)
  | [] => []
  | c :: cs => (if c.isNamed then preorder (some parent) c else []) ++ preorderAll parent cs

end

lemma preorderAll_eq (parent : Node) (cs : List Node) :
    preorderAll parent cs = (cs.filter (·.isNamed)).flatMap (preorder (some parent)) := by
  induction cs with
  | nil => rw [preorderAll]; rfl
  | cons c cs ih =>
    rw [preorderAll, ih]
    by_cases hc : c.isNamed <;> simp [hc]

lemma preorder_eq (parent : Option Node) (n : Node) :
    n.preorder parent = (n, parent) :: n.namedChildren.flatMap (preorder (some n)) := by
  cases n
  rw [preorder, preorderAll_eq]
  rfl

lemma visitWithParents_eq (pending : List (Node × Option Node)) :
    visitWithParents pending = pending.flatMap fun e => e.1.preorder e.2 := by
  fun_induction visitWithParents pending with
  | case1 => rfl
  | case2 n parent rest ih =>
    rw [ih, List.flatMap_append, List.flatMap_map, List.flatMap_cons, preorder_eq parent n]
    rfl

/-- The walk visits the named nodes in pre-order. -/
lemma walkWithParents_eq (n : Node) : n.walkWithParents = n.preorder none := by
  rw [walkWithParents, visitWithParents_eq]
  simp

/-- The named children of a node, each with the node it is a child of. -/
def offspring (n : Node) : List (Node × Option Node) := n.namedChildren.map (·, some n)

/-- **Every visit but the first is one of a named child of a visited node**, and each named child
of each visited node is visited once. -/
lemma preorder_perm (parent : Option Node) (n : Node) :
    (n.preorder parent).Perm ((n, parent) :: (n.preorder parent).flatMap (·.1.offspring)) := by
  have hchild : ∀ c ∈ n.namedChildren, (c.preorder (some n)).Perm
      ([(c, some n)] ++ (c.preorder (some n)).flatMap (·.1.offspring)) := by
    intro c hc
    have hlt : c.size < n.size := size_lt_of_mem_children (List.mem_of_mem_filter hc)
    exact preorder_perm (some n) c
  have hsplit := (List.Perm.flatMap_left _ hchild).trans (List.flatMap_append_perm _ _ _).symm
  rw [preorder_eq]
  refine List.Perm.cons _ (hsplit.trans ?_)
  rw [List.flatMap_cons, List.flatMap_assoc, ← List.map_eq_flatMap]
  rfl
termination_by n.size

/-- The parent a node is visited with is visited too, and the node is a named child of it. -/
lemma mem_preorder_some {root n a : Node} (h : (n, some a) ∈ root.preorder none) :
    ∃ g, (a, g) ∈ root.preorder none ∧ n ∈ a.namedChildren := by
  rw [(root.preorder_perm none).mem_iff, List.mem_cons, List.mem_flatMap] at h
  rcases h with h | ⟨⟨a', g⟩, ha', hn⟩
  · cases h
  · obtain ⟨c, hc, hcn⟩ := List.mem_map.1 hn
    cases hcn
    exact ⟨g, ha', hc⟩

/-! ### All nodes -/

mutual

/-- A node and all its descendants, unnamed ones too. -/
def nodes : Node → List Node
  | mk k s e f b cs => mk k s e f b cs :: nodesAll cs

def nodesAll : List Node → List Node
  | [] => []
  | n :: ns => n.nodes ++ nodesAll ns

end

lemma nodesAll_eq (ns : List Node) : nodesAll ns = ns.flatMap nodes := by
  induction ns with
  | nil => rw [nodesAll]; rfl
  | cons n ns ih => rw [nodesAll, ih, List.flatMap_cons]

lemma nodes_eq (n : Node) : n.nodes = n :: n.children.flatMap nodes := by
  cases n
  rw [nodes, nodesAll_eq]
  rfl

lemma self_mem_nodes (n : Node) : n ∈ n.nodes := by
  rw [nodes_eq]
  exact List.mem_cons_self

lemma nodes_subset_of_mem {n c : Node} (h : c ∈ n.children) : c.nodes ⊆ n.nodes := by
  intro m hm
  rw [n.nodes_eq]
  exact List.mem_cons_of_mem _ (List.mem_flatMap.2 ⟨c, h, hm⟩)

lemma mem_children_of_child? {n c : Node} {name : String} (h : n.child? name = some c) :
    c ∈ n.children :=
  List.mem_of_find?_eq_some h

/-- The nodes of a tree that is visited are nodes of the tree walked over. -/
lemma nodes_subset_of_mem_preorder {parent : Option Node} {n : Node} {e : Node × Option Node}
    (h : e ∈ n.preorder parent) : e.1.nodes ⊆ n.nodes := by
  rw [preorder_eq, List.mem_cons, List.mem_flatMap] at h
  rcases h with rfl | ⟨c, hc, he⟩
  · exact List.Subset.refl _
  · have hmem : c ∈ n.children := List.mem_of_mem_filter hc
    have hlt : c.size < n.size := size_lt_of_mem_children hmem
    exact List.Subset.trans (nodes_subset_of_mem_preorder he) (nodes_subset_of_mem hmem)
termination_by n.size

end ComponentLint.Script.Node
