import Mathlib

/-!
Depth-first search over what follows what.

`Explores` tells which nodes a search meets for the first time, and in which order, when it takes
pending nodes in turn and everything below a new node before the next pending one. The search
meets each node once, and from one node it meets exactly what can be reached from there.
-/

namespace ComponentLint

variable {α : Type*} {next : α → List α} {seen : Set α} {pending met : List α}

/-- A search that has seen some nodes meets new ones at and below the pending nodes, in the order
in which they are met. -/
inductive Explores (next : α → List α) : Set α → List α → List α → Prop where
  | done (seen : Set α) : Explores next seen [] []
  | again {seen : Set α} {pending met : List α} {n : α} (hseen : n ∈ seen)
      (hrest : Explores next seen pending met) : Explores next seen (n :: pending) met
  | first {seen : Set α} {pending below after : List α} {n : α} (hnew : n ∉ seen)
      (hbelow : Explores next (insert n seen) (next n) below)
      (hafter : Explores next (insert n seen ∪ {m | m ∈ below}) pending after) :
      Explores next seen (n :: pending) (n :: (below ++ after))

namespace Explores

/-- What is met at several pending nodes is met at the first ones and then at the others. -/
lemma split {first others : List α} (h : Explores next seen (first ++ others) met) :
    ∃ before after, met = before ++ after ∧ Explores next seen first before ∧
      Explores next (seen ∪ {m | m ∈ before}) others after := by
  induction first generalizing seen met with
  | nil => exact ⟨[], met, rfl, .done seen, by simpa using h⟩
  | cons n first ih =>
    rw [List.cons_append] at h
    cases h with
    | again hseen hrest =>
      obtain ⟨before, after, rfl, hbefore, hafter⟩ := ih hrest
      exact ⟨before, after, rfl, .again hseen hbefore, hafter⟩
    | @first _ _ below _ _ hnew hbelow hrest =>
      obtain ⟨before, after, rfl, hbefore, hafter⟩ := ih hrest
      have hseen : insert n seen ∪ {m | m ∈ below} ∪ {m | m ∈ before} =
          seen ∪ {m | m ∈ n :: (below ++ before)} := by
        ext m
        simp only [Set.mem_union, Set.mem_insert_iff, Set.mem_ofPred_eq, List.mem_cons,
          List.mem_append]
        tauto
      refine ⟨n :: (below ++ before), after, by simp, .first hnew hbelow hbefore, ?_⟩
      rwa [← hseen]

/-- The order in which a search meets nodes is determined. -/
lemma unique {met' : List α} (h : Explores next seen pending met)
    (h' : Explores next seen pending met') : met = met' := by
  induction h generalizing met' with
  | done seen =>
    cases h'
    rfl
  | again hseen hrest ih =>
    cases h' with
    | again _ hrest' => exact ih hrest'
    | first hnew _ _ => exact absurd hseen hnew
  | first hnew hbelow hafter ihbelow ihafter =>
    cases h' with
    | again hseen _ => exact absurd hseen hnew
    | first _ hbelow' hafter' =>
      obtain rfl := ihbelow hbelow'
      rw [ihafter hafter']

/-- A node is met only where it was not seen before. -/
lemma not_mem_seen (h : Explores next seen pending met) : ∀ m ∈ met, m ∉ seen := by
  induction h with
  | done seen => simp
  | again hseen hrest ih => exact ih
  | first hnew hbelow hafter ihbelow ihafter =>
    intro m hm hmseen
    rcases List.mem_cons.1 hm with rfl | hm
    · exact hnew hmseen
    rcases List.mem_append.1 hm with hm | hm
    · exact ihbelow m hm (Set.mem_insert_of_mem _ hmseen)
    · exact ihafter m hm (Or.inl (Set.mem_insert_of_mem _ hmseen))

/-- No node is met twice. -/
lemma nodup (h : Explores next seen pending met) : met.Nodup := by
  induction h with
  | done seen => exact List.nodup_nil
  | again hseen hrest ih => exact ih
  | @first seen pending below after n hnew hbelow hafter ihbelow ihafter =>
    have hn : n ∉ below ++ after := by
      intro hm
      rcases List.mem_append.1 hm with hm | hm
      · exact hbelow.not_mem_seen n hm (Set.mem_insert n seen)
      · exact hafter.not_mem_seen n hm (Or.inl (Set.mem_insert n seen))
    have hdisjoint : below.Disjoint after := fun m hm hm' =>
      hafter.not_mem_seen m hm' (Or.inr hm)
    exact List.nodup_cons.2 ⟨hn, List.nodup_append'.2 ⟨ihbelow, ihafter, hdisjoint⟩⟩

/-- Everything met can be reached from a pending node. -/
lemma reaches (h : Explores next seen pending met) :
    ∀ m ∈ met, ∃ n ∈ pending, Relation.ReflTransGen (fun a b => b ∈ next a) n m := by
  induction h with
  | done seen => simp
  | again hseen hrest ih =>
    intro m hm
    obtain ⟨n, hn, hreach⟩ := ih m hm
    exact ⟨n, List.mem_cons_of_mem _ hn, hreach⟩
  | @first seen pending below after n hnew hbelow hafter ihbelow ihafter =>
    intro m hm
    rcases List.mem_cons.1 hm with rfl | hm
    · exact ⟨m, List.mem_cons_self, .refl⟩
    rcases List.mem_append.1 hm with hm | hm
    · obtain ⟨k, hk, hreach⟩ := ihbelow m hm
      exact ⟨n, List.mem_cons_self, .head hk hreach⟩
    · obtain ⟨k, hk, hreach⟩ := ihafter m hm
      exact ⟨k, List.mem_cons_of_mem _ hk, hreach⟩

/-- Nothing is left out: the pending nodes, and what follows a node that was met, have been seen
or are met. -/
lemma closed (h : Explores next seen pending met) :
    (∀ n ∈ pending, n ∈ seen ∨ n ∈ met) ∧ ∀ m ∈ met, ∀ k ∈ next m, k ∈ seen ∨ k ∈ met := by
  induction h with
  | done seen => simp
  | again hseen hrest ih =>
    refine ⟨?_, ih.2⟩
    intro n hn
    rcases List.mem_cons.1 hn with rfl | hn
    · exact Or.inl hseen
    · exact ih.1 n hn
  | first hnew hbelow hafter ihbelow ihafter =>
    simp only [List.mem_cons, List.mem_append, Set.mem_union, Set.mem_insert_iff,
      Set.mem_ofPred_eq] at ihbelow ihafter ⊢
    grind

/-- **A search from one node meets exactly what can be reached from it**, apart from the node
itself. -/
lemma mem_iff_reaches {start : α} (h : Explores next {start} (next start) met) (n : α) :
    n ∈ start :: met ↔ Relation.ReflTransGen (fun a b => b ∈ next a) start n := by
  obtain ⟨hpending, hmet⟩ := h.closed
  constructor
  · intro hn
    rcases List.mem_cons.1 hn with rfl | hn
    · exact .refl
    · obtain ⟨k, hk, hreach⟩ := h.reaches n hn
      exact .head hk hreach
  · intro hreach
    induction hreach with
    | refl => exact List.mem_cons_self
    | @tail m k _ hk ih =>
      have hseen : k ∈ ({start} : Set α) ∨ k ∈ met := by
        rcases List.mem_cons.1 ih with rfl | hm
        · exact hpending k hk
        · exact hmet m hm k hk
      rcases hseen with rfl | hk
      · exact List.mem_cons_self
      · exact List.mem_cons_of_mem _ hk

lemma nodup_from {start : α} (h : Explores next {start} (next start) met) :
    (start :: met).Nodup :=
  List.nodup_cons.2 ⟨fun hm => h.not_mem_seen start hm rfl, h.nodup⟩

end Explores

end ComponentLint
