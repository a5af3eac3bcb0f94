import ComponentLint.Proofs.DocumentOrder

/-!
Walking back from a place.

The walk back climbs from a place to the root and looks through the subtrees of the earlier siblings
on its way. What it looks at is written down here as one list, the places before the place in
document order. The list is a prefix of the walk from the root, so the walk back finds the last
match before the place.
-/

namespace ComponentLint.Markup.Place

/-! ### What the climb looks at -/

/-- The places before all that is below the first step, in document order. -/
def earlierFrom (href : String) : List (Item × ℕ) → List Place
  | [] => []
  | (item, i) :: rest =>
    let parent : Place := ⟨href, item, rest⟩
    earlierFrom href rest ++ parent :: (parent.children.take i).flatMap walk

/-- The places before a place, in document order. -/
def earlier (p : Place) : List Place := earlierFrom p.href p.above

lemma lastMatch_append (test : Place → Bool) (ps qs : List Place) :
    lastMatch test (ps ++ qs) = (lastMatch test qs).or (lastMatch test ps) := by
  rw [lastMatch, List.reverse_append, List.findSome?_append]
  rfl

/-- The last match in some subtrees is the last match of the walk through all of them. -/
lemma lastMatch_eq_getLast? (test : Place → Bool) (ps : List Place) :
    lastMatch test ps = ((ps.flatMap walk).filter test).getLast? := by
  induction ps using List.reverseRecOn with
  | nil => rfl
  | append_singleton ps p ih =>
    have hlast : lastMatch test [p] = (p.walk.filter test).getLast? := by
      rw [lastMatch, List.reverse_singleton, List.findSome?_singleton, walkAll]
    rw [lastMatch_append, ih, hlast, List.flatMap_append, List.flatMap_singleton,
      List.filter_append, List.getLast?_append]

/-- The climb finds the last match among the places it looks at. -/
lemma priorFrom_eq_getLast? (href : String) (test : Place → Bool) (above : List (Item × ℕ)) :
    priorFrom href test above = ((earlierFrom href above).filter test).getLast? := by
  induction above with
  | nil => rfl
  | cons step rest ih =>
    obtain ⟨item, i⟩ := step
    rw [priorFrom, earlierFrom, lastMatch_eq_getLast?, ih, ← List.singleton_append,
      List.filter_append, List.filter_append, List.getLast?_append, List.getLast?_append,
      List.filter_singleton]
    cases (((Place.mk href item rest).children.take i).flatMap walk |>.filter test).getLast? with
    | some q => rfl
    | none => cases test ⟨href, item, rest⟩ <;> rfl

lemma walkPrior_eq_earlier (p : Place) (test : Place → Bool) :
    p.walkPrior test = (p.earlier.filter test).getLast? :=
  priorFrom_eq_getLast? ..

/-! ### The way up -/

lemma getElem?_childrenFrom (href : String) (parent : Item) (above : List (Item × ℕ)) (i : ℕ)
    (ns : List Node) (j : ℕ) : (childrenFrom href parent above i ns)[j]? =
      ns[j]?.map fun n => ⟨href, .node n, (parent, i + j) :: above⟩ := by
  induction ns generalizing i j with
  | nil => rfl
  | cons n ns ih =>
    cases j with
    | zero => rfl
    | succ j =>
      rw [childrenFrom, List.getElem?_cons_succ, List.getElem?_cons_succ, ih]
      simp only [Nat.add_assoc, Nat.add_comm 1 j]

/-- A child knows its parent and the index at which it stands. -/
lemma above_of_getElem? {p c : Place} {i : ℕ} (h : p.children[i]? = some c) :
    c.href = p.href ∧ c.above = (p.item, i) :: p.above := by
  rw [children, getElem?_childrenFrom, Nat.zero_add] at h
  obtain ⟨n, -, rfl⟩ := Option.map_eq_some_iff.1 h
  exact ⟨rfl, rfl⟩

/-- The places before a child are those before its parent, the parent, and what is at and below
the earlier siblings. -/
lemma earlier_of_getElem? {p c : Place} {i : ℕ} (h : p.children[i]? = some c) :
    c.earlier = p.earlier ++ p :: (p.children.take i).flatMap walk := by
  obtain ⟨hhref, habove⟩ := above_of_getElem? h
  rw [earlier, hhref, habove]
  rfl

/-- The walk from the root starts with the places before a place and goes on with what is at and
below it. -/
lemma exists_walk_eq {root p : Place} (hroot : root.above = []) (hp : root.Within p) :
    ∃ later, root.walk = p.earlier ++ p.walk ++ later := by
  induction hp with
  | self =>
    refine ⟨[], ?_⟩
    rw [earlier, hroot, List.append_nil]
    rfl
  | @child p c _ hc ih =>
    obtain ⟨later, hwalk⟩ := ih
    obtain ⟨i, hi⟩ := List.getElem?_of_mem hc
    have hsplit : p.children = p.children.take i ++ c :: p.children.drop (i + 1) := by
      obtain ⟨hlt, rfl⟩ := List.getElem?_eq_some_iff.1 hi
      rw [List.getElem_cons_drop, List.take_append_drop]
    refine ⟨(p.children.drop (i + 1)).flatMap walk ++ later, ?_⟩
    calc root.walk = p.earlier ++ p :: p.children.flatMap walk ++ later := by rw [hwalk, walk_eq p]
      _ = p.earlier ++ p :: (p.children.take i ++ c :: p.children.drop (i + 1)).flatMap walk ++
          later := by rw [← hsplit]
      _ = c.earlier ++ c.walk ++ ((p.children.drop (i + 1)).flatMap walk ++ later) := by
        rw [earlier_of_getElem? hi, List.flatMap_append, List.flatMap_cons]
        simp only [List.append_assoc, List.cons_append]

/-- A place stands once in the walk, after the places before it. -/
lemma exists_walk_split {root p : Place} (hroot : root.above = []) (hp : root.Within p) :
    ∃ later, root.walk = p.earlier ++ p :: later ∧ p ∉ p.earlier ∧ p ∉ later := by
  obtain ⟨later, hwalk⟩ := exists_walk_eq hroot hp
  rw [walk_eq p, List.append_assoc, List.cons_append] at hwalk
  have hnodup := root.nodup_walk
  rw [hwalk, List.nodup_middle, List.nodup_cons, List.mem_append, not_or] at hnodup
  exact ⟨_, hwalk, hnodup.1⟩

/-- Climbing from a place, each place below the root is found among the children of its parent, at
the index kept for it and at no other. -/
lemma exists_index {root p q parent : Place} (hroot : root.above = []) (hp : root.Within p)
    (hq : q = p ∨ q ∈ p.ancestors) (hparent : q.ancestors.head? = some parent) :
    ∃ i, q.above = (parent.item, i) :: parent.above ∧ parent.children[i]? = some q ∧
      ∀ j, parent.children[j]? = some q → j = i := by
  have hwithin : root.Within q := by
    rcases hq with rfl | hq
    · exact hp
    · refine (hp.of_mem_ancestors hq).resolve_right ?_
      rw [ancestors, hroot]
      exact List.not_mem_nil
  cases hwithin with
  | self =>
    rw [ancestors, hroot] at hparent
    cases hparent
  | child _ hchild =>
    rw [ancestors_of_mem_children hchild] at hparent
    cases hparent
    obtain ⟨i, hi⟩ := List.getElem?_of_mem hchild
    refine ⟨i, (above_of_getElem? hi).2, hi, fun j hj => ?_⟩
    have habove := (above_of_getElem? hj).2.symm.trans (above_of_getElem? hi).2
    exact congrArg Prod.snd (List.head_eq_of_cons_eq habove)

/-- **The walk back finds the last match before a place**, in the order of the walk from the root,
and nothing if there is no match before it. Each place it climbs from stands once among the children
of its parent. -/
theorem walkPrior_eq_getLast? (root p : Place) (test : Place → Bool) (hroot : root.above = [])
    (hp : p ∈ root.walk) :
    (∃ before after, root.walk = before ++ p :: after ∧ p ∉ before ∧ p ∉ after ∧
      p.walkPrior test = (before.filter test).getLast? ∧
      (p.walkPrior test = none ↔ ∀ q ∈ before, ¬test q)) ∧
    ∀ q parent, (q = p ∨ q ∈ p.ancestors) → q.ancestors.head? = some parent →
      ∃ i, q.above = (parent.item, i) :: parent.above ∧ parent.children[i]? = some q ∧
        ∀ j, parent.children[j]? = some q → j = i := by
  have hwithin := mem_walk_iff.1 hp
  obtain ⟨later, hwalk, hbefore, hafter⟩ := exists_walk_split hroot hwithin
  refine ⟨⟨p.earlier, later, hwalk, hbefore, hafter, p.walkPrior_eq_earlier test, ?_⟩,
    fun q parent hq hparent => exists_index hroot hwithin hq hparent⟩
  rw [walkPrior_eq_earlier, List.getLast?_eq_none_iff, List.filter_eq_nil_iff]

/-! ### A script after two paragraphs -/

/-- A section with two paragraphs, the first with a text in it, then a script. -/
def article : Document where
  href := "article.html"
  children :=
    [.element ⟨1, 0⟩ "section" []
      [.element ⟨1, 9⟩ "p" [] [.text ⟨1, 12⟩ "a"], .element ⟨1, 17⟩ "p" [] []],
     .element ⟨1, 34⟩ "script" [] []]

def articleScript : Place :=
  ⟨"article.html", .node (.element ⟨1, 34⟩ "script" [] []), [(.document article, 1)]⟩

/-- Before the script stand its parent and what is in the section; the last paragraph of the section
is found first. -/
theorem walkPrior_article :
    (root article).above = [] ∧ articleScript ∈ (root article).walk ∧
    (∃ before after, (root article).walk = before ++ articleScript :: after ∧
      articleScript ∉ before ∧ articleScript ∉ after ∧
      articleScript.walkPrior (hasTag "p") = (before.filter (hasTag "p")).getLast?) ∧
    (articleScript.walkPrior (hasTag "p")).map (·.location) = some ⟨1, 17⟩ := by
  have hmem : articleScript ∈ (root article).walk :=
    mem_walk_iff.2 (.child .self (.tail _ (.head _)))
  obtain ⟨⟨before, after, hwalk, hbefore, hafter, hprior, -⟩, -⟩ :=
    walkPrior_eq_getLast? (root article) articleScript (hasTag "p") rfl hmem
  exact ⟨rfl, hmem, ⟨before, after, hwalk, hbefore, hafter, hprior⟩, by decide +kernel⟩

end ComponentLint.Markup.Place
