import ComponentLint.Proofs.PlainFindings

/-!
Names that are banned inside longer chains of members.

The walk meets every member of a chain `x₁.x₂.….xₙ`, from the outermost inwards, and at each of
them the name is spelled anew from the object it is read from. So each prefix is compared with the
banned names once, at the member that ends it, and a chain that starts from anything but a name is
never compared.
-/

namespace ComponentLint.Conformance

open Script (Node)

/-! ### Chains of members -/

/-- A member expression that is read from an object. -/
def IsObjectOf (object m : Node) : Prop :=
  m.kind = "member_expression" ∧ m.child? "object" = some object

/-- The text of the property that a member expression reads. -/
def HasProperty (s : Script) (m : Node) (x : String) : Prop :=
  ∃ property, m.child? "property" = some property ∧ s.textOf property = .ok x

/-- The object that a visited node is read from is a named child of it. -/
def ObjectsNamed (root : Node) : Prop :=
  ∀ e ∈ root.walkWithParents, ∀ object ∈ e.1.child? "object", object.isNamed

instance (root : Node) : Decidable (ObjectsNamed root) :=
  decidable_of_iff (∀ e ∈ root.preorder none, ∀ object ∈ e.1.child? "object", object.isNamed)
    (by rw [ObjectsNamed, Node.walkWithParents_eq])

/-- The nodes that a walk over a tree visits. -/
def Visited (root n : Node) : Prop := ∃ parent, (n, parent) ∈ root.walkWithParents

variable {s : Script} {root object m : Node}

lemma mem_preorder_of_namedChild {n c : Node} {parent : Option Node} {root : Node}
    {above : Option Node} (hn : (n, parent) ∈ root.preorder above) (hc : c ∈ n.namedChildren) :
    (c, some n) ∈ root.preorder above := by
  rw [(root.preorder_perm above).mem_iff]
  exact List.mem_cons_of_mem _
    (List.mem_flatMap.2 ⟨(n, parent), hn, List.mem_map.2 ⟨c, hc, rfl⟩⟩)

lemma visited_object (h : ObjectsNamed root) (hm : IsObjectOf object m) (hv : Visited root m) :
    Visited root object := by
  obtain ⟨parent, hvisit⟩ := hv
  have hnamed : object.isNamed := h _ hvisit object hm.2
  have hchild : object ∈ m.namedChildren :=
    List.mem_filter.2 ⟨Node.mem_children_of_child? hm.2, hnamed⟩
  refine ⟨some m, ?_⟩
  rw [Node.walkWithParents_eq] at hvisit ⊢
  exact mem_preorder_of_namedChild hvisit hchild

/-- If the outermost node of a chain is visited, all of them are. -/
lemma visited_of_chain (h : ObjectsNamed root) {chain : List Node}
    (hchain : chain.IsChain IsObjectOf) (hlast : ∀ n ∈ chain.getLast?, Visited root n) :
    ∀ m ∈ chain, Visited root m := by
  induction chain with
  | nil => exact nofun
  | cons object chain ih =>
    cases chain with
    | nil => exact List.forall_mem_singleton.2 (hlast object rfl)
    | cons m members =>
      rw [List.isChain_cons_cons] at hchain
      rw [List.getLast?_cons_cons] at hlast
      have hrest := ih hchain.2 hlast
      exact List.forall_mem_cons.2
        ⟨visited_object h hchain.1 (hrest m List.mem_cons_self), hrest⟩

lemma member_of_chain {members : List Node} (hchain : (object :: members).IsChain IsObjectOf) :
    ∀ m ∈ members, m.kind = "member_expression" := by
  induction members generalizing object with
  | nil => exact nofun
  | cons m members ih =>
    rw [List.isChain_cons_cons] at hchain
    exact List.forall_mem_cons.2 ⟨hchain.1.1, ih hchain.2⟩

/-! ### What a chain spells -/

/-- The text of an identifier, or of `this`, is the name it spells. -/
lemma chainName_of_textOf {x : String} (hb : s.OnBoundaries object)
    (hkind : object.kind ∈ ["identifier", "this"])
    (hx : s.textOf object = .ok x) : chainName s object = some x := by
  rw [chainName, if_pos (by simpa using hkind)]
  exact congrArg some (Except.ok.inj ((Script.textOf_eq hb).symm.trans hx))

/-- Any other node that is not read from an object spells no name. -/
lemma chainName_of_innermost (hkind : object.kind ∉ ["identifier", "this"])
    (hinner : ∀ inner, ¬ IsObjectOf inner object) : chainName s object = none := by
  rw [chainName, if_neg (by simpa using hkind)]
  split_ifs with hmember
  · rfl
  · split
    · rename_i inner _ hobject _
      exact absurd ⟨not_not.1 hmember, hobject⟩ (hinner inner)
    · rfl

/-- The name of a member is that of its object, a point, and its property. -/
lemma chainName_member (hm : IsObjectOf object m) : chainName s m =
    (chainName s object).bind fun name =>
      (m.child? "property").map fun property => name ++ "." ++ s.spelling property := by
  obtain ⟨hkind, hobject⟩ := hm
  rw [chainName, if_neg (by rw [hkind]; decide), if_neg (not_not.2 hkind)]
  split
  · rename_i object' property hobject' hproperty
    obtain rfl : object = object' := Option.some.inj (hobject.symm.trans hobject')
    rw [hproperty]
    cases chainName s object <;> rfl
  · rename_i hnone
    have hproperty : m.child? "property" = none :=
      Option.eq_none_iff_forall_not_mem.2 fun property hp => hnone _ _ hobject hp
    rw [hproperty]
    cases chainName s object <;> rfl

/-- A chain that starts from nothing that has a name spells none. -/
lemma chainName_eq_none {members : List Node} (hchain : (object :: members).IsChain IsObjectOf)
    (hobject : chainName s object = none) : ∀ m ∈ members, chainName s m = none := by
  refine hchain.cons_induction (chainName s · = none) members (fun o m hm ho => ?_) hobject
  rw [chainName_member hm, ho]
  rfl

/-- **Each member spells its prefix** of what the chain spells. -/
lemma chainName_of_chain {members : List Node} {name : String} {xs : List String}
    (hb : ∀ m ∈ members, s.OnBoundaries m) (hchain : (object :: members).IsChain IsObjectOf)
    (hname : chainName s object = some name) (hxs : List.Forall₂ (HasProperty s) members xs)
    {j : ℕ} (hm : members[j]? = some m) :
    chainName s m = some ((xs.take (j + 1)).foldl (· ++ "." ++ ·) name) := by
  induction hxs generalizing object name j with
  | nil => cases hm
  | @cons m' x members xs hx _ ih =>
    rw [List.isChain_cons_cons] at hchain
    obtain ⟨hhead, hrest⟩ := List.forall_mem_cons.1 hb
    obtain ⟨property, hproperty, htext⟩ := hx
    have hspelling : s.spelling property = x :=
      Except.ok.inj ((Script.textOf_eq (hhead.child? hproperty)).symm.trans htext)
    have hname' : chainName s m' = some (name ++ "." ++ x) := by
      rw [chainName_member hchain.1, hname, Option.bind_some, hproperty, Option.map_some, hspelling]
    cases j with
    | zero =>
      obtain rfl : m' = m := Option.some.inj hm
      exact hname'
    | succ j => exact ih hrest hchain.2 hname' hm

lemma intercalate_cons (sep x : String) (xs : List String) :
    sep.intercalate (x :: xs) = xs.foldl (· ++ sep ++ ·) x := by
  induction xs generalizing x with
  | nil => rfl
  | cons y xs ih => exact ih (x ++ sep ++ y)

/-- A name of more than one part has a point in it. -/
lemma point_mem_foldl {name : String} {xs : List String} (h : '.' ∈ name.toList ∨ xs ≠ []) :
    '.' ∈ (xs.foldl (· ++ "." ++ ·) name).toList := by
  induction xs generalizing name with
  | nil => exact h.resolve_right fun hne => hne rfl
  | cons x xs ih =>
    rw [List.foldl_cons]
    exact ih (Or.inl (by simp))

/-! ### What is reported at a visit -/

section

variable [Script.Language]

/-- The violations of a single requirement at one visit of the walk. -/
def violationsAt (r : Requirement) (s : Script) (e : Node × Option Node) : List Violation :=
  match checkNode (compile [r]) s e.1 e.2 with
  | .ok vs => vs
  | .error _ => []

lemma violationsAt_eq (r : Requirement) {e : Node × Option Node} (h : s.OnBoundaries e.1) :
    violationsAt r s e = findingsAt s [r] e.1 e.2 := by
  rw [violationsAt, checkNode_eq h]

variable {r : Requirement}

lemma node_of_mem_findingsAt (hk : r.kind = .bannedName) {n : Node} {parent : Option Node}
    {v : Violation} (hv : v ∈ findingsAt s [r] n parent) : v.node = n := by
  have hviolation : ∀ {banned : List String} {name : Option String},
      violation? r banned n name = some v → v.node = n := by
    intro banned name h
    obtain ⟨_, -, rfl⟩ := Option.map_eq_some_iff.1 h
    rfl
  unfold findingsAt at hv
  split_ifs at hv
  · obtain ⟨r', hr', hfound⟩ := List.mem_filterMap.1 hv
    obtain rfl := List.mem_singleton.1 hr'
    rw [findingAt_bannedName s n parent hk] at hfound
    split_ifs at hfound <;> exact hviolation hfound
  · rw [List.mem_singleton.1 hv]

lemma findingsAt_member (hknows : Script.Language.Knows ["member_expression"])
    (hk : r.kind = .bannedName) (hm : m.kind = "member_expression")
    (parent : Option Node) : findingsAt s [r] m parent =
      (violation? r (r.value.filter fun v => v.toList.contains '.') m (chainName s m)).toList := by
  have hknown : Script.isKnown m.kind := hm ▸ hknows _ List.mem_cons_self
  have hname : m.kind ∉ nameKinds := by rw [hm]; decide
  rw [findingsAt, if_pos hknown, List.filterMap_cons, findingAt_bannedName s m parent hk,
    if_neg hname, if_pos hm]
  cases violation? r (r.value.filter fun v => v.toList.contains '.') m (chainName s m) <;> rfl

/-- At a member the name it spells is reported if it is banned. -/
lemma findingsAt_member_some (hknows : Script.Language.Knows ["member_expression"])
    (hk : r.kind = .bannedName) (hm : m.kind = "member_expression")
    (parent : Option Node) {name : String} (hname : chainName s m = some name)
    (hpoint : '.' ∈ name.toList) :
    findingsAt s [r] m parent = if name ∈ r.value then [⟨m, messageFor r name⟩] else [] := by
  rw [findingsAt_member hknows hk hm, hname, violation?, Option.filter_some]
  split_ifs <;> simp_all

/-- A member of a chain from a name is reported if its prefix is banned. -/
lemma violationsAt_of_named (hknows : Script.Language.Knows ["member_expression"])
    (hk : r.kind = .bannedName) {members : List Node}
    (hb : ∀ m ∈ members, s.OnBoundaries m) (hchain : (object :: members).IsChain IsObjectOf)
    {x : String} {xs : List String} (hname : chainName s object = some x)
    (hxs : List.Forall₂ (HasProperty s) members xs) {j : ℕ} (hm : members[j]? = some m)
    (parent : Option Node) :
    violationsAt r s (m, parent) =
      if ".".intercalate (x :: xs.take (j + 1)) ∈ r.value then
        [⟨m, messageFor r (".".intercalate (x :: xs.take (j + 1)))⟩]
      else [] := by
  have hmem : m ∈ members := List.mem_of_getElem? hm
  have hspelled := chainName_of_chain hb hchain hname hxs hm
  have hlt : j < xs.length := hxs.length_eq ▸ (List.getElem?_eq_some_iff.1 hm).1
  have hne : xs.take (j + 1) ≠ [] := by
    rw [ne_eq, List.take_eq_nil_iff, not_or]
    exact ⟨by omega, List.ne_nil_of_length_pos (by omega)⟩
  rw [violationsAt_eq r (hb m hmem), intercalate_cons]
  exact findingsAt_member_some hknows hk (member_of_chain hchain m hmem) parent hspelled
    (point_mem_foldl (Or.inr hne))

/-- No member of a chain from anything else is reported. -/
lemma violationsAt_of_unnamed (hknows : Script.Language.Knows ["member_expression"])
    (hk : r.kind = .bannedName) {members : List Node}
    (hb : ∀ m ∈ members, s.OnBoundaries m) (hchain : (object :: members).IsChain IsObjectOf)
    (hname : chainName s object = none) (hm : m ∈ members) (parent : Option Node) :
    violationsAt r s (m, parent) = [] := by
  rw [violationsAt_eq r (hb m hm), findingsAt_member hknows hk (member_of_chain hchain m hm),
    chainName_eq_none hchain hname m hm]
  rfl

/-- **A banned name is reported at every member that spells it**, and nowhere else in its chain,
where the grammar knows members. What is reported in a script is reported visit by visit, of the
visited nodes. All `members` of a chain are visited if the outermost is; from a name `x` on, the
`j`-th of them is reported exactly if `x` with the first `j + 1` properties is banned, and once;
from anything else, none is. -/
theorem checkScript_memberChains (hknows : Script.Language.Knows ["member_expression"])
    (s : Script) (r : Requirement) (hb : s.OnBoundaries s.root) (hobjects : ObjectsNamed s.root)
    (hk : r.kind = .bannedName) :
    checkScript (compile [r]) s = .ok (s.root.walkWithParents.flatMap (violationsAt r s)) ∧
    (∀ e ∈ s.root.walkWithParents, ∀ v ∈ violationsAt r s e, v.node = e.1) ∧
    ∀ object members, (object :: members).IsChain IsObjectOf →
      (∀ n ∈ (object :: members).getLast?, Visited s.root n) → ∀ j m, members[j]? = some m →
        Visited s.root m ∧ ∀ parent, (m, parent) ∈ s.root.walkWithParents →
          (object.kind ∈ ["identifier", "this"] → ∀ x xs, s.textOf object = .ok x →
            List.Forall₂ (HasProperty s) members xs →
            violationsAt r s (m, parent) =
              if ".".intercalate (x :: xs.take (j + 1)) ∈ r.value then
                [⟨m, messageFor r (".".intercalate (x :: xs.take (j + 1)))⟩]
              else []) ∧
          (object.kind ∉ ["identifier", "this"] → (∀ inner, ¬ IsObjectOf inner object) →
            violationsAt r s (m, parent) = []) := by
  have hvisited : ∀ e ∈ s.root.walkWithParents, s.OnBoundaries e.1 := fun e he =>
    hb.visited (Node.walkWithParents_eq s.root ▸ he)
  refine ⟨?_, fun e he v hv => ?_, fun object members hchain hlast j m hm => ?_⟩
  · rw [checkScript_eq hb, findings, ← Node.walkWithParents_eq]
    exact congrArg _ (List.flatMap_congr fun e he => (violationsAt_eq r (hvisited e he)).symm)
  · rw [violationsAt_eq r (hvisited e he)] at hv
    exact node_of_mem_findingsAt hk hv
  · have hchained := visited_of_chain hobjects hchain hlast
    have hon : ∀ m ∈ object :: members, s.OnBoundaries m := fun m hm =>
      have ⟨parent, he⟩ := hchained m hm
      hvisited (m, parent) he
    obtain ⟨hobject, hmembers⟩ := List.forall_mem_cons.1 hon
    have hmem : m ∈ members := List.mem_of_getElem? hm
    refine ⟨hchained m (List.mem_cons_of_mem _ hmem), fun parent _ => ⟨?_, ?_⟩⟩
    · intro hkind x xs hx hxs
      have hname : chainName s object = some x := chainName_of_textOf hobject hkind hx
      exact violationsAt_of_named hknows hk hmembers hchain hname hxs hm parent
    · intro hkind hinner
      have hname : chainName s object = none := chainName_of_innermost hkind hinner
      exact violationsAt_of_unnamed hknows hk hmembers hchain hname hmem parent

end

/-- The name that `é.b.c` is read from. -/
def namedObject : Node := .mk "identifier" 0 2 (some "object") true []

def innerMember : Node :=
  .mk "member_expression" 0 4 (some "object") true
    [namedObject, .mk "property_identifier" 3 4 (some "property") true []]

def outerMember : Node :=
  .mk "member_expression" 0 6 none true
    [innerMember, .mk "property_identifier" 5 6 (some "property") true []]

/-- The call that `f().b` is read from. -/
def calledObject : Node :=
  .mk "call_expression" 7 10 (some "object") true
    [.mk "identifier" 7 8 (some "function") true [],
     .mk "arguments" 8 10 (some "arguments") true []]

def calledMember : Node :=
  .mk "member_expression" 7 12 none true
    [calledObject, .mk "property_identifier" 11 12 (some "property") true []]

/-- `é.b.c` and `f().b`. -/
def chains : Script where
  root := .mk "program" 0 12 none true [outerMember, calledMember]
  text := "é.b.c;f().b"

def chainBans : Requirement := { kind := .bannedName, value := ["é.b", "b.c", "f().b", "f.b"] }

/-- A grammar with the kinds of nodes in both. -/
abbrev chainGrammar : Script.Language :=
  .ofTrees ["program", "member_expression", "call_expression", "arguments", "identifier",
    "property_identifier"] []

/-- The banned name is found inside the longer chain, and nothing in the one from a call. -/
theorem checkScript_chains : letI := chainGrammar
    Script.Language.Knows ["member_expression"] ∧
    chains.OnBoundaries chains.root ∧ ObjectsNamed chains.root ∧
    [namedObject, innerMember, outerMember].IsChain IsObjectOf ∧
    [calledObject, calledMember].IsChain IsObjectOf ∧
    violationsAt chainBans chains (innerMember, some outerMember) =
      [⟨innerMember, "é.b violates BANNED_NAME requirement"⟩] ∧
    violationsAt chainBans chains (outerMember, some chains.root) = [] ∧
    violationsAt chainBans chains (calledMember, some chains.root) = [] := by
  let _ := chainGrammar
  have hknows : Script.Language.Knows ["member_expression"] := by decide
  have hb : chains.OnBoundaries chains.root := by decide
  have hobjects : ObjectsNamed chains.root := by decide
  have hnamed : [namedObject, innerMember, outerMember].IsChain IsObjectOf :=
    .cons_cons ⟨rfl, rfl⟩ (.cons_cons ⟨rfl, rfl⟩ (.singleton _))
  have hcalled : [calledObject, calledMember].IsChain IsObjectOf :=
    .cons_cons ⟨rfl, rfl⟩ (.singleton _)
  have hxs : List.Forall₂ (HasProperty chains) [innerMember, outerMember] ["b", "c"] :=
    .cons ⟨_, rfl, rfl⟩ (.cons ⟨_, rfl, rfl⟩ .nil)
  have hinner : (innerMember, some outerMember) ∈ chains.root.walkWithParents := by
    rw [Node.walkWithParents_eq]
    exact List.mem_of_getElem? (i := 2) rfl
  have houter : (outerMember, some chains.root) ∈ chains.root.walkWithParents := by
    rw [Node.walkWithParents_eq]
    exact List.mem_of_getElem? (i := 1) rfl
  have hcall : (calledMember, some chains.root) ∈ chains.root.walkWithParents := by
    rw [Node.walkWithParents_eq]
    exact List.mem_of_getElem? (i := 6) rfl
  obtain ⟨-, -, hreported⟩ := checkScript_memberChains hknows chains chainBans hb hobjects rfl
  have hmember (j : ℕ) (m : Node) := hreported _ _ hnamed (by rintro n ⟨⟩; exact ⟨_, houter⟩) j m
  have hnone := hreported _ _ hcalled (by rintro n ⟨⟩; exact ⟨_, hcall⟩) 0 calledMember rfl
  have hfirst := ((hmember 0 innerMember rfl).2 _ hinner).1 (by decide) "é" ["b", "c"] (by rfl) hxs
  have hsecond := ((hmember 1 outerMember rfl).2 _ houter).1 (by decide) "é" ["b", "c"] (by rfl) hxs
  refine ⟨hknows, hb, hobjects, hnamed, hcalled, ?_, ?_, ?_⟩
  · rw [hfirst, if_pos (by decide)]
    rfl
  · rw [hsecond, if_neg (by decide)]
  · exact (hnone.2 _ hcall).2 (by decide) fun _ h => absurd h.1 (by decide)

end ComponentLint.Conformance
