import ComponentLint.Proofs.PlainFindings

/-!
Uses of a property are reads or writes.

A write is found from the assignment, by its child at `left`; a read is found at the access, by
comparing it with that child of its parent. Both are brought down to the visits of the walk: a
visit of an access is one of a target or not, and the targets among the visits are the left sides
of the visited assignments.
-/

namespace ComponentLint.Conformance

open Script (Node)

/-! ### Targets of assignments -/

/-- The left side of every assignment that is visited is a named child of it, and no other named
child has the same kind and range. -/
def TargetsDistinct (root : Node) : Prop :=
  ∀ e ∈ root.preorder none, e.1.kind ∈ assignmentKinds → ∀ t, e.1.child? "left" = some t →
    ∃ before after, e.1.namedChildren = before ++ t :: after ∧ ∀ c ∈ before ++ after, ¬t.same c

lemma same_self (n : Node) : n.same n := by simp [Node.same]

lemma isAssignmentTarget_some {n a : Node} : isAssignmentTarget n (some a) ↔
    a.kind ∈ assignmentKinds ∧ ∃ t, a.child? "left" = some t ∧ t.same n := by
  rw [isAssignmentTarget, Bool.and_eq_true, List.contains_iff_mem]
  cases a.child? "left" <;> simp

lemma isAssignmentTarget_left {a t : Node} (hk : a.kind ∈ assignmentKinds)
    (hleft : a.child? "left" = some t) : isAssignmentTarget t (some a) :=
  isAssignmentTarget_some.2 ⟨hk, t, hleft, same_self t⟩

/-- The left side of a visited assignment is the only target among its named children. -/
lemma TargetsDistinct.split {root a t : Node} {g : Option Node} (h : TargetsDistinct root)
    (ha : (a, g) ∈ root.preorder none) (hk : a.kind ∈ assignmentKinds)
    (hleft : a.child? "left" = some t) :
    ∃ before after, a.namedChildren = before ++ t :: after ∧
      (∀ c ∈ before, ¬isAssignmentTarget c (some a)) ∧
        ∀ c ∈ after, ¬isAssignmentTarget c (some a) := by
  obtain ⟨before, after, hsplit, hother⟩ := h (a, g) ha hk t hleft
  have hothers : ∀ c ∈ before ++ after, ¬isAssignmentTarget c (some a) := by
    intro c hc htarget
    obtain ⟨-, t', ht', hsame⟩ := isAssignmentTarget_some.1 htarget
    obtain rfl : t = t' := Option.some.inj (hleft.symm.trans ht')
    exact hother c hc hsame
  exact ⟨before, after, hsplit, fun c hc => hothers c (List.mem_append_left _ hc),
    fun c hc => hothers c (List.mem_append_right _ hc)⟩

/-- A named child of a visited assignment that is a target is its left side. -/
lemma eq_left_of_isAssignmentTarget {root n a : Node} {g : Option Node} (h : TargetsDistinct root)
    (ha : (a, g) ∈ root.preorder none) (hn : n ∈ a.namedChildren)
    (htarget : isAssignmentTarget n (some a)) :
    a.kind ∈ assignmentKinds ∧ a.child? "left" = some n := by
  obtain ⟨hk, t, hleft, -⟩ := isAssignmentTarget_some.1 htarget
  obtain ⟨before, after, hsplit, hbefore, hafter⟩ := h.split ha hk hleft
  rw [hsplit, List.mem_append, List.mem_cons] at hn
  rcases hn with hn | rfl | hn
  · exact absurd htarget (hbefore n hn)
  · exact ⟨hk, hleft⟩
  · exact absurd htarget (hafter n hn)

/-! ### The accesses reported at one visit -/

/-- The accesses among the nodes of some violations. Nodes of an unknown kind are reported under
any requirement and are not among them. -/
def accessNodes (vs : List Violation) : List Node :=
  (vs.map (·.node)).filter (·.kind ∈ accessKinds)

/-- A node, if it accesses a property that is the last segment of a value. -/
def bannedAccess (s : Script) (values : List String) (n : Node) : Option Node :=
  ((accessName s n).filter (lastSegments values).contains).map fun _ => n

/-- The banned accesses that are assigned to, at the visits of the assignments. -/
def leftAt (s : Script) (values : List String) (a : Node) : List Node :=
  (if a.kind ∈ assignmentKinds then (a.child? "left").bind (bannedAccess s values) else none).toList

variable {s : Script}

lemma accessViolation?_node (r : Requirement) (n : Node) :
    (accessViolation? s r n).map (·.node) = bannedAccess s r.value n := by
  rw [accessViolation?, violation?, Option.map_map]
  rfl

lemma eq_of_mem_bannedAccess {values : List String} {n m : Node} (h : m ∈ bannedAccess s values n) :
    m = n ∧ m.kind ∈ accessKinds := by
  obtain ⟨name, hname, rfl⟩ := Option.map_eq_some_iff.1 h
  refine ⟨rfl, ?_⟩
  by_contra hn
  rw [accessName_of_not_access hn] at hname
  cases hname

/-- The kinds of nodes that use a property. -/
def useKinds : List String := accessKinds ++ assignmentKinds

section

variable [Script.Language]

lemma isKnown_of_access (hknows : Script.Language.Knows useKinds) {n : Node}
    (h : n.kind ∈ accessKinds) : Script.isKnown n.kind :=
  hknows _ (List.mem_append_left _ h)

lemma isKnown_of_assignment (hknows : Script.Language.Knows useKinds) {n : Node}
    (h : n.kind ∈ assignmentKinds) : Script.isKnown n.kind :=
  hknows _ (List.mem_append_right _ h)

/-- What a single requirement reports at a visit, given that it reports accesses only. -/
lemma accessNodes_findingsAt (hknows : Script.Language.Knows useKinds) {r : Requirement} {n : Node}
    {parent : Option Node} {o : Option Node}
    (hfinding : (findingAt s n parent r).map (·.node) = o) (haccess : ∀ m ∈ o, m.kind ∈ accessKinds)
    (hknown : ∀ m ∈ o, Script.isKnown n.kind) :
    accessNodes (findingsAt s [r] n parent) = o.toList := by
  unfold accessNodes findingsAt
  split_ifs with hn
  · subst hfinding
    cases hf : findingAt s n parent r with
    | none => simp [hf]
    | some v =>
      have hv : v.node.kind ∈ accessKinds := haccess _ (by rw [hf]; rfl)
      simp [hf, hv]
  · have hnone : o = none := Option.eq_none_iff_forall_not_mem.2 fun m hm => hn (hknown m hm)
    have haccess' : n.kind ∉ accessKinds := fun h => hn (isKnown_of_access hknows h)
    simp [hnone, haccess']

section

variable (hknows : Script.Language.Knows useKinds) {r : Requirement} (n : Node)
  (parent : Option Node)

include hknows

lemma accessNodes_property (hk : r.kind = .bannedProperty) :
    accessNodes (findingsAt s [r] n parent) = (bannedAccess s r.value n).toList := by
  refine accessNodes_findingsAt hknows ?_ (fun m hm => (eq_of_mem_bannedAccess hm).2) fun m hm => ?_
  · rw [findingAt_bannedProperty s n parent hk, accessViolation?_node]
  · obtain ⟨rfl, haccess⟩ := eq_of_mem_bannedAccess hm
    exact isKnown_of_access hknows haccess

lemma accessNodes_read (hk : r.kind = .bannedPropertyRead) :
    accessNodes (findingsAt s [r] n parent) =
      (if isAssignmentTarget n parent then none else bannedAccess s r.value n).toList := by
  refine accessNodes_findingsAt hknows ?_ (fun m hm => ?_) fun m hm => ?_
  · rw [findingAt_bannedPropertyRead s n parent hk, apply_ite (Option.map _),
      accessViolation?_node]
    rfl
  · split_ifs at hm
    · cases hm
    · exact (eq_of_mem_bannedAccess hm).2
  · split_ifs at hm
    · cases hm
    · obtain ⟨rfl, haccess⟩ := eq_of_mem_bannedAccess hm
      exact isKnown_of_access hknows haccess

lemma accessNodes_write (hk : r.kind = .bannedPropertyWrite) :
    accessNodes (findingsAt s [r] n parent) = leftAt s r.value n := by
  refine accessNodes_findingsAt hknows ?_ (fun m hm => ?_) fun m hm => ?_
  · rw [findingAt_bannedPropertyWrite s n parent hk, apply_ite (Option.map _), Option.map_bind]
    simp only [Function.comp_def, accessViolation?_node, Option.map_none]
  · split_ifs at hm
    · obtain ⟨t, -, hm⟩ := Option.bind_eq_some_iff.1 hm
      exact (eq_of_mem_bannedAccess hm).2
    · cases hm
  · split_ifs at hm with hn
    · exact isKnown_of_assignment hknows hn
    · cases hm

end

lemma accessNodes_findings (rs : List Requirement) (s : Script) :
    accessNodes (findings rs s) =
      (s.root.preorder none).flatMap fun e => accessNodes (findingsAt s rs e.1 e.2) := by
  rw [accessNodes, findings, List.map_flatMap, List.filter_flatMap]
  rfl

end

/-! ### The accesses reported on a walk -/

/-- The banned accesses that are assigned to, at the visits of the accesses. -/
def targetsAt (s : Script) (values : List String) (e : Node × Option Node) : List Node :=
  if isAssignmentTarget e.1 e.2 then (bannedAccess s values e.1).toList else []

lemma targetsAt_eq_nil {a : Node} (values : List String) {cs : List Node}
    (h : ∀ c ∈ cs, ¬isAssignmentTarget c (some a)) :
    (cs.map (·, some a)).flatMap (targetsAt s values) = [] := by
  rw [List.flatMap_map, List.flatMap_eq_nil_iff]
  intro c hc
  exact if_neg (h c hc)

/-- The named children of a visited node that are targets are its left side, if it assigns. -/
lemma offspring_flatMap_targetsAt {root a : Node} {g : Option Node} (values : List String)
    (h : TargetsDistinct root) (ha : (a, g) ∈ root.preorder none) :
    a.offspring.flatMap (targetsAt s values) = leftAt s values a := by
  rw [leftAt]
  split_ifs with hk
  · cases hleft : a.child? "left" with
    | none =>
      refine targetsAt_eq_nil values fun c _ htarget => ?_
      obtain ⟨-, t, ht, -⟩ := isAssignmentTarget_some.1 htarget
      rw [hleft] at ht
      cases ht
    | some t =>
      obtain ⟨before, after, hsplit, hbefore, hafter⟩ := h.split ha hk hleft
      rw [Node.offspring, hsplit, List.map_append, List.map_cons, List.flatMap_append,
        List.flatMap_cons, targetsAt_eq_nil values hbefore, targetsAt_eq_nil values hafter,
        List.nil_append, List.append_nil, targetsAt, if_pos (isAssignmentTarget_left hk hleft)]
      rfl
  · exact targetsAt_eq_nil values fun c _ htarget => hk (isAssignmentTarget_some.1 htarget).1

/-- The targets among the visits are the left sides of the visited assignments. -/
lemma targetsAt_perm {root : Node} (values : List String) (h : TargetsDistinct root) :
    ((root.preorder none).flatMap (targetsAt s values)).Perm
      ((root.preorder none).flatMap fun e => leftAt s values e.1) := by
  refine ((root.preorder_perm none).flatMap_right _).trans ?_
  rw [List.flatMap_cons, List.flatMap_assoc]
  refine List.Perm.of_eq (List.flatMap_congr fun e he => ?_)
  exact offspring_flatMap_targetsAt values h he

/-- The banned accesses of a walk that are not assigned to, and the left sides of its assignments,
are all its banned accesses. -/
lemma bannedAccess_perm {root : Node} (values : List String) (h : TargetsDistinct root) :
    ((root.preorder none).flatMap fun e => (bannedAccess s values e.1).toList).Perm
      (((root.preorder none).flatMap fun e =>
        (if isAssignmentTarget e.1 e.2 then none else bannedAccess s values e.1).toList) ++
          (root.preorder none).flatMap fun e => leftAt s values e.1) := by
  have hsplit : ∀ e : Node × Option Node, (bannedAccess s values e.1).toList =
      (if isAssignmentTarget e.1 e.2 then none else bannedAccess s values e.1).toList ++
        targetsAt s values e := by
    intro e
    rw [targetsAt]
    split_ifs <;> simp
  rw [List.flatMap_congr fun e _ => hsplit e]
  exact (List.flatMap_append_perm _ _ _).symm.trans ((targetsAt_perm values h).append_left _)

/-- An access is a left side found at the visit of its parent exactly if it is a target there. -/
lemma mem_leftAt_iff {root n : Node} {parent : Option Node} {values : List String}
    (h : TargetsDistinct root) (hn : (n, parent) ∈ root.preorder none) :
    (∃ a g, parent = some a ∧ (a, g) ∈ root.preorder none ∧ n ∈ leftAt s values a) ↔
      isAssignmentTarget n parent ∧ n ∈ bannedAccess s values n := by
  constructor
  · rintro ⟨a, g, rfl, -, hleft⟩
    rw [leftAt, Option.mem_toList] at hleft
    split_ifs at hleft with hk
    obtain ⟨t, ht, hmem⟩ := Option.bind_eq_some_iff.1 hleft
    obtain ⟨rfl, -⟩ := eq_of_mem_bannedAccess hmem
    exact ⟨isAssignmentTarget_left hk ht, hmem⟩
  · rintro ⟨htarget, hmem⟩
    cases parent with
    | none => cases htarget
    | some a =>
      obtain ⟨g, ha, hchild⟩ := Node.mem_preorder_some hn
      obtain ⟨hk, hleft⟩ := eq_left_of_isAssignmentTarget h ha hchild htarget
      refine ⟨a, g, rfl, ha, ?_⟩
      rw [leftAt, if_pos hk, hleft, Option.mem_toList]
      exact hmem

/-! ### Exactly one report -/

section

variable [Script.Language]

/-- The accesses a requirement reports while the walk is at a node. -/
def reportedAt (r : Requirement) (s : Script) (n : Node) (parent : Option Node) : List Node :=
  match checkNode (compile [r]) s n parent with
  | .ok vs => accessNodes vs
  | .error _ => []

lemma reportedAt_eq (r : Requirement) {n : Node} (h : s.OnBoundaries n) (parent : Option Node) :
    reportedAt r s n parent = accessNodes (findingsAt s [r] n parent) := by
  rw [reportedAt, checkNode_eq h]

/-- **Uses of a property are its reads and its writes.** Where the grammar knows accesses and
assignments, in a script whose byte ranges fall between characters and whose assignments have a left
side that can be told from their other children, the accesses reported under a requirement on all
uses are, as a multiset, those reported under one on reads and one on writes of the same values. At
each visit of an access, if it is a use, exactly one of the two reports it: that on reads there, or
that on writes at the visit of its parent. -/
theorem uses_eq_reads_add_writes (hknows : Script.Language.Knows useKinds) (s : Script)
    (hb : s.OnBoundaries s.root) (ht : TargetsDistinct s.root) (p r w : Requirement)
    (hp : p.kind = .bannedProperty) (hr : r.kind = .bannedPropertyRead)
    (hw : w.kind = .bannedPropertyWrite) (hrv : r.value = p.value)
    (hwv : w.value = p.value) :
    (∃ uses reads writes, checkScript (compile [p]) s = .ok uses ∧
      checkScript (compile [r]) s = .ok reads ∧ checkScript (compile [w]) s = .ok writes ∧
      (accessNodes uses : Multiset Node) = accessNodes reads + accessNodes writes) ∧
    ∀ n parent, (n, parent) ∈ s.root.preorder none →
      (n ∈ reportedAt p s n parent ↔ Xor (n ∈ reportedAt r s n parent)
        (∃ a g, parent = some a ∧ (a, g) ∈ s.root.preorder none ∧ n ∈ reportedAt w s a g)) := by
  constructor
  · refine ⟨_, _, _, checkScript_eq hb [p], checkScript_eq hb [r], checkScript_eq hb [w], ?_⟩
    rw [Multiset.coe_add, Multiset.coe_eq_coe]
    simp only [accessNodes_findings, accessNodes_property hknows _ _ hp,
      accessNodes_read hknows _ _ hr, accessNodes_write hknows _ _ hw, hrv, hwv]
    exact bannedAccess_perm p.value ht
  · intro n parent hn
    have hwrites : (∃ a g, parent = some a ∧ (a, g) ∈ s.root.preorder none ∧
        n ∈ reportedAt w s a g) ↔ isAssignmentTarget n parent ∧ n ∈ bannedAccess s p.value n := by
      rw [← mem_leftAt_iff ht hn]
      refine exists_congr fun a => exists_congr fun g => and_congr_right fun _ =>
        and_congr_right fun ha => ?_
      rw [reportedAt_eq w (hb.visited ha), accessNodes_write hknows a g hw, hwv]
    rw [hwrites, reportedAt_eq p (hb.visited hn), reportedAt_eq r (hb.visited hn),
      accessNodes_property hknows n parent hp, accessNodes_read hknows n parent hr, hrv,
      Option.mem_toList, Option.mem_toList]
    by_cases htarget : isAssignmentTarget n parent <;> simp [htarget, Xor]

end

/-- `a.b.b = a.b`, where the left side contains an access that is only read. -/
def nestedAssignment : Script where
  root := .mk "assignment_expression" 0 11 none true
    [.mk "member_expression" 0 5 (some "left") true
      [.mk "member_expression" 0 3 (some "object") true
        [.mk "identifier" 0 1 (some "object") true [],
         .mk "property_identifier" 2 3 (some "property") true []],
       .mk "property_identifier" 4 5 (some "property") true []],
     .mk "=" 6 7 none false [],
     .mk "member_expression" 8 11 (some "right") true
      [.mk "identifier" 8 9 (some "object") true [],
       .mk "property_identifier" 10 11 (some "property") true []]]
  text := "a.b.b = a.b"

/-- A grammar with the kinds of its nodes. -/
abbrev useGrammar : Script.Language :=
  .ofTrees (useKinds ++ ["identifier", "property_identifier"]) []

theorem uses_nestedAssignment : letI := useGrammar
    Script.Language.Knows useKinds ∧
    nestedAssignment.OnBoundaries nestedAssignment.root ∧ TargetsDistinct nestedAssignment.root ∧
    ∃ uses reads writes,
      checkScript (compile [{ kind := .bannedProperty, value := ["Node.b"] }]) nestedAssignment =
        .ok uses ∧
      checkScript (compile [{ kind := .bannedPropertyRead, value := ["Node.b"] }])
        nestedAssignment = .ok reads ∧
      checkScript (compile [{ kind := .bannedPropertyWrite, value := ["Node.b"] }])
        nestedAssignment = .ok writes ∧
      (accessNodes uses : Multiset Node) = accessNodes reads + accessNodes writes ∧
      (accessNodes uses).length = 3 ∧ (accessNodes writes).length = 1 := by
  let _ := useGrammar
  have hknows : Script.Language.Knows useKinds := by decide
  have hb : nestedAssignment.OnBoundaries nestedAssignment.root := by decide
  have ht : TargetsDistinct nestedAssignment.root := by
    intro e he hk t hleft
    fin_cases he
    · obtain rfl := Option.some.inj hleft
      exact ⟨[], _, rfl, by decide⟩
    all_goals exact absurd hk (by decide)
  obtain ⟨⟨uses, reads, writes, huses, hreads, hwrites, hsum⟩, -⟩ :=
    uses_eq_reads_add_writes hknows nestedAssignment hb ht
      { kind := .bannedProperty, value := ["Node.b"] }
      { kind := .bannedPropertyRead, value := ["Node.b"] }
      { kind := .bannedPropertyWrite, value := ["Node.b"] } rfl rfl rfl rfl rfl
  have hcount : ((checkScript (compile [{ kind := .bannedProperty, value := ["Node.b"] }])
        nestedAssignment).toOption.map fun vs => (accessNodes vs).length) = some 3 ∧
      ((checkScript (compile [{ kind := .bannedPropertyWrite, value := ["Node.b"] }])
        nestedAssignment).toOption.map fun vs => (accessNodes vs).length) = some 1 := by
    decide +kernel
  rw [huses, hwrites] at hcount
  exact ⟨hknows, hb, ht, uses, reads, writes, huses, hreads, hwrites, hsum,
    Option.some.inj hcount.1, Option.some.inj hcount.2⟩

end ComponentLint.Conformance
