import ComponentLint.Conformance.Lint
import ComponentLint.Proofs.DocumentOrder
import ComponentLint.Proofs.IndexLookup
import ComponentLint.Proofs.Registrations
import Mathlib

/-!
The walks over trees are pre-orders.

A node of a tree has an address, the list of the child numbers that lead to it. In lexicographic
order an address is before those that go on from it, and before those that turn off to a later
child, so a list of all nodes by this order has each node once, before its children, and children
from left to right. There is one such list for each tree. The three walks keep their pending nodes
in a list; each of them visits this one.
-/

namespace ComponentLint

/-! ### Pre-order -/

section Preorder

variable {α : Type} {kids : α → List α}

/-- The node that child numbers lead to. -/
def descend (kids : α → List α) : α → List ℕ → Option α
  | x, [] => some x
  | x, i :: address => (kids x)[i]?.bind (descend kids · address)

/-- All nodes of a tree, each at each of its addresses, by the order of the addresses. -/
def IsPreorder (kids : α → List α) (root : α) (visited : List α) : Prop :=
  ∃ addresses : List (List ℕ), addresses.Pairwise (· < ·) ∧
    (∀ a, a ∈ addresses ↔ (descend kids root a).isSome) ∧
    visited.map some = addresses.map (descend kids root)

lemma IsPreorder.unique {root : α} {visited visited' : List α}
    (h : IsPreorder kids root visited) (h' : IsPreorder kids root visited') :
    visited = visited' := by
  obtain ⟨addresses, hsorted, hmem, hvisited⟩ := h
  obtain ⟨addresses', hsorted', hmem', hvisited'⟩ := h'
  have heq : addresses = addresses' :=
    hsorted.eq_of_mem_iff hsorted' fun a => (hmem a).trans (hmem' a).symm
  rw [heq, ← hvisited'] at hvisited
  exact List.map_injective_iff.2 (Option.some_injective α) hvisited

/-- The addresses below a node, from the addresses below each of its `n` children. -/
def addressesBelow {n : ℕ} (addresses : Fin n → List (List ℕ)) : List (List ℕ) :=
  (List.finRange n).flatMap fun i => (addresses i).map (i.1 :: ·)

section

variable {n : ℕ} {addresses : Fin n → List (List ℕ)}

lemma mem_addressesBelow {a : List ℕ} :
    a ∈ addressesBelow addresses ↔ ∃ i : Fin n, ∃ b ∈ addresses i, i.1 :: b = a := by
  simp [addressesBelow]

lemma cons_mem_addressesBelow {i : ℕ} {a : List ℕ} :
    i :: a ∈ addressesBelow addresses ↔ ∃ hi : i < n, a ∈ addresses ⟨i, hi⟩ := by
  rw [mem_addressesBelow]
  constructor
  · rintro ⟨j, b, hb, heq⟩
    cases heq
    exact ⟨j.2, hb⟩
  · exact fun ⟨hi, ha⟩ => ⟨⟨i, hi⟩, a, ha, rfl⟩

lemma pairwise_addressesBelow (h : ∀ i, (addresses i).Pairwise (· < ·)) :
    (addressesBelow addresses).Pairwise (· < ·) := by
  refine List.pairwise_flatMap.2 ⟨?_, (List.pairwise_lt_finRange n).imp ?_⟩
  · intro i _
    exact List.pairwise_map.2 ((h i).imp fun hab => List.cons_lt_cons_iff.2 (Or.inr ⟨rfl, hab⟩))
  · intro i j hij a ha b hb
    obtain ⟨a, -, rfl⟩ := List.mem_map.1 ha
    obtain ⟨b, -, rfl⟩ := List.mem_map.1 hb
    exact List.cons_lt_cons_iff.2 (Or.inl hij)

end

/-- A node followed by the pre-orders of its children is in pre-order. -/
lemma IsPreorder.of_kids {walk : α → List α} {root : α}
    (h : ∀ c ∈ kids root, IsPreorder kids c (walk c)) :
    IsPreorder kids root (root :: (kids root).flatMap walk) := by
  have hkid : ∀ i : Fin (kids root).length, IsPreorder kids (kids root)[i] (walk (kids root)[i]) :=
    fun i => h _ (List.getElem_mem i.2)
  choose addresses hsorted hmem hvisited using hkid
  refine ⟨[] :: addressesBelow addresses, ?_, ?_, ?_⟩
  · refine List.pairwise_cons.2 ⟨?_, pairwise_addressesBelow hsorted⟩
    intro a ha
    obtain ⟨i, b, -, rfl⟩ := mem_addressesBelow.1 ha
    exact List.nil_lt_cons _ _
  · intro a
    cases a with
    | nil => simp [descend]
    | cons i a =>
      rw [List.mem_cons, or_iff_right (List.cons_ne_nil i a), cons_mem_addressesBelow, descend]
      by_cases hi : i < (kids root).length
      · simp [hi, hmem]
      · simp [hi]
  · rw [List.map_cons, List.map_cons, addressesBelow, List.map_flatMap, List.map_flatMap]
    congr 1
    conv_lhs => rw [← List.map_get_finRange (kids root), List.flatMap_map]
    refine List.flatMap_congr fun i _ => ?_
    rw [List.get_eq_getElem, ← Fin.getElem_fin, hvisited, List.map_map]
    refine List.map_congr_left fun a _ => ?_
    simp [descend]

/-- A recursion over a tree that goes down visits it in pre-order. -/
lemma isPreorder_iff {size : α → ℕ} {walk : α → List α}
    (hsize : ∀ x, ∀ c ∈ kids x, size c < size x)
    (hwalk : ∀ x, walk x = x :: (kids x).flatMap walk) {root : α} {visited : List α} :
    IsPreorder kids root visited ↔ visited = walk root := by
  have hpreorder : IsPreorder kids root (walk root) := by
    induction hn : size root using Nat.strong_induction_on generalizing root with
    | _ n ih =>
      rw [hwalk root]
      exact .of_kids fun c hc => ih (size c) (hn ▸ hsize root c hc) rfl
  constructor
  · exact fun h => h.unique hpreorder
  · rintro rfl
    exact hpreorder

end Preorder

/-! ### The walks -/

namespace Script.Node

lemma visit_append (ns ms : List Node) : visit (ns ++ ms) = visit ns ++ visit ms := by
  fun_induction visit ns with
  | case1 => rfl
  | case2 n rest ih => rw [List.cons_append, visit, ← List.append_assoc, ih, List.cons_append]

lemma visit_eq_flatMap (ns : List Node) : visit ns = ns.flatMap walk := by
  induction ns with
  | nil => rw [visit]; rfl
  | cons n ns ih => rw [← List.singleton_append, visit_append, ih]; rfl

lemma walk_eq (n : Node) : n.walk = n :: n.namedChildren.flatMap walk := by
  rw [walk, visit, List.append_nil, visit_eq_flatMap]

lemma size_lt_of_mem_namedChildren {n c : Node} (h : c ∈ n.namedChildren) : c.size < n.size :=
  size_lt_of_mem_children (List.mem_of_mem_filter h)

end Script.Node

namespace Conformance

open Script (Node)

lemma checkNodes_eq_mapM [Script.Language] (i : Index Test) (s : Script)
    (es : List (Node × Option Node)) :
    checkNodes i s es = (es.mapM fun e => checkNode i s e.1 e.2).map List.flatten := by
  induction es with
  | nil => rfl
  | cons e es ih =>
    rw [checkNodes, ih, List.mapM_cons]
    cases checkNode i s e.1 e.2 with
    | error f => rfl
    | ok vs => cases es.mapM fun e => checkNode i s e.1 e.2 <;> rfl

end Conformance

namespace Registration

open Script (Node)
open Conformance (bind_eq_ok)

variable {s : Script}

/-- A call of the registration function by its name, with an object literal as first argument. -/
structure Registers (s : Script) (call literal : Node) : Prop where
  kind : call.kind = "call_expression"
  function : ∃ function, call.child? "function" = some function ∧ function.kind = "identifier" ∧
    s.textOf function = .ok functionName
  argument : ∃ arguments, call.child? "arguments" = some arguments ∧
    arguments.namedChildren.head? = some literal
  object : literal.kind = "object"

lemma registers_of_literal? {n l : Node} (h : literal? s n = .ok (some l)) : Registers s n l := by
  unfold literal? at h
  split at h
  · cases h
  next hkind =>
  split at h
  · next function arguments hfunction harguments =>
    split at h
    · cases h
    next hidentifier =>
    obtain ⟨name, hname, h⟩ := bind_eq_ok.1 h
    split at h
    · cases h
    next heq =>
    obtain ⟨hhead, hobject⟩ := Option.filter_eq_some_iff.1 (Except.ok.inj h)
    obtain rfl := not_not.1 heq
    exact {
      kind := not_not.1 hkind
      function := ⟨function, hfunction, not_not.1 hidentifier, hname⟩
      argument := ⟨arguments, harguments, hhead⟩
      object := beq_iff_eq.1 hobject }
  · cases h

lemma Registers.literal?_eq {n l : Node} (h : Registers s n l) : literal? s n = .ok (some l) := by
  obtain ⟨hkind, ⟨function, hfunction, hidentifier, hname⟩, ⟨arguments, harguments, hhead⟩,
    hobject⟩ := h
  simp only [literal?, hkind, hfunction, harguments, hidentifier, hname, hhead]
  simp [bind, Except.bind, Option.filter, hobject]
  rfl

/-- The literal found at a node is the one it registers. -/
lemma literal?_eq_some_iff {n : Node} {found : Option Node} (h : literal? s n = .ok found)
    (l : Node) : found = some l ↔ Registers s n l := by
  constructor
  · rintro rfl
    exact registers_of_literal? h
  · intro hregisters
    exact Except.ok.inj (h.symm.trans hregisters.literal?_eq)

/-- What each of some nodes registers. -/
def Registered (s : Script) : List Node → List (Option Node) → Prop :=
  List.Forall₂ fun n o => ∀ l, o = some l ↔ Registers s n l

lemma exists_registered {ns found : List Node} (h : literalsAt s ns = .ok found) :
    ∃ registered, Registered s ns registered ∧ found = registered.reduceOption := by
  induction ns generalizing found with
  | nil =>
    cases h
    exact ⟨[], .nil, rfl⟩
  | cons n ns ih =>
    obtain ⟨here, hhere, h⟩ := bind_eq_ok.1 h
    obtain ⟨rest, hrest, h⟩ := bind_eq_ok.1 h
    cases h
    obtain ⟨registered, hregistered, rfl⟩ := ih hrest
    refine ⟨here :: registered, .cons (literal?_eq_some_iff hhere) hregistered, ?_⟩
    cases here <;> rfl

lemma exists_literals (h : s.OnBoundaries s.root) : ∃ found, literals s = .ok found := by
  have hwalk : ∀ n ∈ s.root.walk, s.OnBoundaries n := visit_onBoundaries (by simpa using h)
  obtain ⟨found, hfound, -⟩ := (literalsAt_gives hwalk).exists_ok
  exact ⟨found, hfound⟩

end Registration

open Script (Node)
open Markup (Place)
open Conformance Registration

/-- **The walks are pre-orders.** The walk from a place visits the tree of its children, the walk
over a script the tree of its named nodes, and the walk with parents that tree with each node
under its parent: all three have every node once, before its children, and children from left to
right. A check runs at each visit of the walk with parents in turn. The literals that a script
registers are those of its calls of the registration function, by the order of the calls in the
walk, one inside another after it. -/
theorem walks_in_preorder [Script.Language] :
    (∀ p visited, IsPreorder Place.children p visited ↔ visited = p.walk) ∧
    ∀ s : Script,
      (∀ visited, IsPreorder (·.1.offspring) (s.root, none) visited ↔
        visited = s.root.walkWithParents) ∧
      (∀ i, checkScript i s =
        (s.root.walkWithParents.mapM fun e => checkNode i s e.1 e.2).map List.flatten) ∧
      (∀ visited, IsPreorder Node.namedChildren s.root visited ↔ visited = s.root.walk) ∧
      (s.OnBoundaries s.root → ∃ found, literals s = .ok found) ∧
      ∀ found, literals s = .ok found →
        ∃ registered, Registered s s.root.walk registered ∧ found = registered.reduceOption := by
  refine ⟨fun p visited => ?_, fun s => ⟨fun visited => ?_, fun i => ?_, fun visited => ?_, ?_, ?_⟩⟩
  · exact isPreorder_iff (fun _ _ => Place.size_lt_of_mem_children) Place.walk_eq
  · rw [Node.walkWithParents_eq]
    have hsize : ∀ e : Node × Option Node, ∀ c ∈ e.1.offspring, c.1.size < e.1.size := by
      intro e c hc
      obtain ⟨n, hn, rfl⟩ := List.mem_map.1 hc
      exact Node.size_lt_of_mem_namedChildren hn
    have hwalk : ∀ e : Node × Option Node,
        e.1.preorder e.2 = e :: e.1.offspring.flatMap fun c => c.1.preorder c.2 := by
      intro e
      rw [Node.preorder_eq, Node.offspring, List.flatMap_map]
    exact isPreorder_iff hsize hwalk
  · exact checkNodes_eq_mapM i s _
  · exact isPreorder_iff (fun _ _ => Node.size_lt_of_mem_namedChildren) Node.walk_eq
  · exact exists_literals
  · exact fun _ => exists_registered

end ComponentLint
