import ComponentLint.Markup.Place
import Mathlib

/-!
Document order.

A place is before another if its address comes first in lexicographic order, so that a node is
before what is below it and before its later siblings with all that is below them. The walk from a
place keeps its pending places in a list; here it is shown to visit the places within that place,
each before the next.
-/

namespace ComponentLint.Markup.Place

/-! ### Children -/

lemma mem_childrenFrom {href : String} {parent : Item} {above : List (Item × ℕ)} {i : ℕ}
    {ns : List Node} {c : Place} (h : c ∈ childrenFrom href parent above i ns) :
    ∃ n j, c = ⟨href, .node n, (parent, j) :: above⟩ ∧ i ≤ j := by
  induction ns generalizing i with
  | nil => simp [childrenFrom] at h
  | cons n ns ih =>
    rw [childrenFrom, List.mem_cons] at h
    rcases h with rfl | h
    · exact ⟨n, i, rfl, le_rfl⟩
    · obtain ⟨n', j, rfl, hj⟩ := ih h
      exact ⟨n', j, rfl, by omega⟩

lemma ancestors_of_mem_children {p c : Place} (h : c ∈ p.children) :
    c.ancestors = p :: p.ancestors := by
  obtain ⟨n, j, rfl, -⟩ := mem_childrenFrom h
  rfl

lemma exists_address_of_mem_children {p c : Place} (h : c ∈ p.children) :
    ∃ j, c.address = p.address ++ [j] := by
  obtain ⟨n, j, rfl, -⟩ := mem_childrenFrom h
  exact ⟨j, by simp [address]⟩

lemma size_le_sizeAll {p : Place} {ps : List Place} (h : p ∈ ps) : p.size ≤ sizeAll ps := by
  induction ps with
  | nil => simp at h
  | cons q ps ih =>
    rw [sizeAll]
    rcases List.mem_cons.1 h with rfl | h
    · omega
    · have := ih h
      omega

lemma size_lt_of_mem_children {p c : Place} (h : c ∈ p.children) : c.size < p.size := by
  have hle := size_le_sizeAll h
  have hsize := sizeAll_children p
  omega

/-- What holds of a place whenever it holds of its children holds of every place. -/
lemma induction_children {P : Place → Prop} (step : ∀ p, (∀ c ∈ p.children, P c) → P p)
    (p : Place) : P p := by
  induction hsize : p.size using Nat.strong_induction_on generalizing p with
  | _ k ih =>
    refine step p fun c hc => ih c.size ?_ c rfl
    rw [← hsize]
    exact size_lt_of_mem_children hc

/-! ### The walk -/

lemma visit_append (ps qs : List Place) : visit (ps ++ qs) = visit ps ++ visit qs := by
  fun_induction visit ps with
  | case1 => rfl
  | case2 p rest ih =>
    rw [List.cons_append, visit, ← List.append_assoc, ih, List.cons_append]

lemma visit_eq_flatMap (ps : List Place) : visit ps = ps.flatMap walk := by
  induction ps with
  | nil => rw [visit]; rfl
  | cons p ps ih => rw [← List.singleton_append, visit_append, ih]; rfl

/-- The walk visits a place and then walks from its children, from left to right. -/
lemma walk_eq (p : Place) : p.walk = p :: p.children.flatMap walk := by
  rw [walk, visit, List.append_nil, visit_eq_flatMap]

/-- The places at and below a place. -/
inductive Within (p : Place) : Place → Prop
  | self : Within p p
  | child {q r : Place} : Within p q → r ∈ q.children → Within p r

lemma Within.of_child {p c q : Place} (hc : c ∈ p.children) (h : c.Within q) : p.Within q := by
  induction h with
  | self => exact .child .self hc
  | child _ hr ih => exact .child ih hr

lemma mem_walk_of_mem_children {p q r : Place} (hq : q ∈ p.walk) (hr : r ∈ q.children) :
    r ∈ p.walk := by
  induction p using induction_children with
  | step p ih =>
    rw [walk_eq, List.mem_cons, List.mem_flatMap] at hq ⊢
    rcases hq with rfl | ⟨c, hc, hq⟩
    · refine Or.inr ⟨r, hr, ?_⟩
      rw [walk_eq]
      exact List.mem_cons_self
    · exact Or.inr ⟨c, hc, ih c hc hq⟩

lemma mem_walk_iff {p q : Place} : q ∈ p.walk ↔ p.Within q := by
  constructor
  · intro h
    induction p using induction_children with
    | step p ih =>
      rw [walk_eq, List.mem_cons, List.mem_flatMap] at h
      rcases h with rfl | ⟨c, hc, hq⟩
      · exact .self
      · exact .of_child hc (ih c hc hq)
  · intro h
    induction h with
    | self =>
      rw [walk_eq]
      exact List.mem_cons_self
    | child _ hr ih => exact mem_walk_of_mem_children ih hr

lemma length_above_of_mem_ancestors {p a : Place} (h : a ∈ p.ancestors) :
    a.above.length < p.above.length := by
  obtain ⟨href, item, above⟩ := p
  induction above generalizing item with
  | nil => simp [ancestors, ancestorsFrom] at h
  | cons step rest ih =>
    rw [ancestors, ancestorsFrom, List.mem_cons] at h
    rcases h with rfl | h
    · simp
    · exact (ih step.1 h).trans (by simp)

lemma not_mem_ancestors_self (p : Place) : p ∉ p.ancestors :=
  fun h => lt_irrefl _ (length_above_of_mem_ancestors h)

/-- What is above a place is above everything within it. -/
lemma Within.ancestors_suffix {p q : Place} (h : p.Within q) : p.ancestors <:+ q.ancestors := by
  induction h with
  | self => exact List.suffix_rfl
  | child _ hr ih =>
    rw [ancestors_of_mem_children hr]
    exact ih.trans (List.suffix_cons ..)

/-- What is above a place within another is within that one or above it. -/
lemma Within.of_mem_ancestors {p q a : Place} (h : p.Within q) (ha : a ∈ q.ancestors) :
    p.Within a ∨ a ∈ p.ancestors := by
  induction h with
  | self => exact Or.inr ha
  | child hq hr ih =>
    rw [ancestors_of_mem_children hr, List.mem_cons] at ha
    rcases ha with rfl | ha
    · exact Or.inl hq
    · exact ih ha

/-! ### The order -/

/-- Document order, by addresses. -/
def Before (p q : Place) : Prop := p.address < q.address

lemma Before.asymm {p q : Place} (h : p.Before q) : ¬q.Before p := List.lt_asymm h

lemma Within.exists_address {p q : Place} (h : p.Within q) : ∃ x, q.address = p.address ++ x := by
  induction h with
  | self => exact ⟨[], (List.append_nil _).symm⟩
  | child _ hr ih =>
    obtain ⟨x, hx⟩ := ih
    obtain ⟨j, hj⟩ := exists_address_of_mem_children hr
    exact ⟨x ++ [j], by rw [hj, hx, List.append_assoc]⟩

lemma pairwise_childrenFrom (href : String) (parent : Item) (above : List (Item × ℕ)) (i : ℕ)
    (ns : List Node) : (childrenFrom href parent above i ns).Pairwise fun c c' =>
      ∀ x y, c.address ++ x < c'.address ++ y := by
  induction ns generalizing i with
  | nil => exact List.Pairwise.nil
  | cons n ns ih =>
    refine List.Pairwise.cons ?_ (ih (i + 1))
    intro c hc x y
    obtain ⟨n', j, rfl, hj⟩ := mem_childrenFrom hc
    simp only [address, List.map_cons, List.reverse_cons, List.append_assoc, List.singleton_append]
    exact List.append_left_lt (List.cons_lt_cons_iff.2 (Or.inl hj))

/-- The walk goes in document order. -/
lemma pairwise_walk (p : Place) : p.walk.Pairwise Before := by
  induction p using induction_children with
  | step p ih =>
    rw [walk_eq, List.pairwise_cons, List.pairwise_flatMap]
    refine ⟨?_, ih, ?_⟩
    · intro q hq
      obtain ⟨c, hc, hq⟩ := List.mem_flatMap.1 hq
      obtain ⟨j, hj⟩ := exists_address_of_mem_children hc
      obtain ⟨x, hx⟩ := (mem_walk_iff.1 hq).exists_address
      have hlt : p.address ++ [] < p.address ++ ([j] ++ x) :=
        List.append_left_lt (List.nil_lt_cons j x)
      rwa [List.append_nil, ← List.append_assoc, ← hj, ← hx] at hlt
    · refine (pairwise_childrenFrom ..).imp ?_
      intro c c' h q hq q' hq'
      obtain ⟨x, hx⟩ := (mem_walk_iff.1 hq).exists_address
      obtain ⟨y, hy⟩ := (mem_walk_iff.1 hq').exists_address
      rw [Before, hx, hy]
      exact h x y

lemma nodup_walk (p : Place) : p.walk.Nodup := by
  refine p.pairwise_walk.imp ?_
  rintro q r hbefore rfl
  exact hbefore.asymm hbefore

/-! ### Parents -/

lemma nodup_children (p : Place) : p.children.Nodup := by
  refine (pairwise_childrenFrom ..).imp ?_
  rintro c c' hlt rfl
  exact List.lt_irrefl _ (hlt [] [])

/-- Every place of a walk but the first stands once among the children of the place right above
it. This is so in any document, since the way up is part of a place. -/
lemma exists_parent_of_mem_walk {p q : Place} (hq : q ∈ p.walk) (hne : q ≠ p) :
    ∃ parent ∈ p.walk, q.ancestors.head? = some parent ∧ q ∈ parent.children ∧
      parent.children.Nodup := by
  cases mem_walk_iff.1 hq with
  | self => exact absurd rfl hne
  | @child parent _ hwithin hchild =>
    refine ⟨parent, mem_walk_iff.2 hwithin, ?_, hchild, parent.nodup_children⟩
    rw [ancestors_of_mem_children hchild]
    rfl

end ComponentLint.Markup.Place
