import ComponentLint.Conformance.Lint
import ComponentLint.Proofs.ChildPaths
import ComponentLint.Proofs.NodeText

/-!
The findings of a policy without an index.

A script is gone through node by node, and at each node requirement by requirement; what a
requirement finds at a node is said directly, in terms of the text of the script. Checking through
the index finds the same, in the same order.
-/

namespace ComponentLint.Conformance

open Script (Node)

/-! ### Names and accesses -/

/-- The name that a chain of member accesses from an identifier or `this` spells. -/
def chainName (s : Script) (n : Node) : Option String :=
  if n.kind = "identifier" ∨ n.kind = "this" then some (s.spelling n)
  else if n.kind ≠ "member_expression" then none
  else
    match _h : n.child? "object", n.child? "property" with
    | some object, some property =>
      (chainName s object).map (· ++ "." ++ s.spelling property)
    | _, _ => none
termination_by n.size
decreasing_by exact Node.size_lt_of_child? _h

/-- The name of the property that a member or subscript expression accesses. -/
def accessName (s : Script) (n : Node) : Option String :=
  if n.kind = "member_expression" then (n.child? "property").map s.spelling
  else if n.kind = "subscript_expression" then
    ((n.child? "index").filter (·.kind = "string")).map fun i => Script.unquote (s.spelling i)
  else none

variable {s : Script} {n : Node}

lemma dottedName_eq (h : s.OnBoundaries n) : dottedName s n = .ok (chainName s n) := by
  fun_induction chainName s n with
  | case1 n hn => rw [dottedName, if_pos hn, Script.textOf_eq h]; rfl
  | case2 n hn hm => rw [dottedName, if_neg hn, if_pos hm]
  | case3 n hn hm object property ho hp ih =>
    rw [dottedName, if_neg hn, if_neg hm]
    split
    · rename_i object' property' ho' hp'
      obtain rfl : object = object' := Option.some.inj (ho.symm.trans ho')
      obtain rfl : property = property' := Option.some.inj (hp.symm.trans hp')
      rw [ih (h.child? ho)]
      cases chainName s object with
      | none => rfl
      | some name =>
        change (s.textOf property >>= _) = _
        rw [Script.textOf_eq (h.child? hp)]; rfl
    · rename_i hnone
      exact absurd hp (hnone _ _ ho)
  | case4 n hn hm hnone =>
    rw [dottedName, if_neg hn, if_neg hm]
    split
    · rename_i ho' hp'
      exact absurd hp' (hnone _ _ ho')
    · rfl

lemma accessedProperty_eq (h : s.OnBoundaries n) :
    accessedProperty s n = .ok (accessName s n) := by
  unfold accessedProperty accessName
  split_ifs
  · cases hp : n.child? "property" with
    | none => rfl
    | some p => simp only [Script.textOf_eq (h.child? hp)]; rfl
  · cases hi : n.child? "index" with
    | none => rfl
    | some i =>
      by_cases hs : i.kind = "string"
      · simp [hs, Script.textOf_eq (h.child? hi), Except.map]
      · simp [hs]
  · rfl

/-! ### What a requirement finds at a node -/

/-- A violation by a name that is banned. -/
def violation? (r : Requirement) (banned : List String) (n : Node) (name : Option String) :
    Option Violation :=
  (name.filter banned.contains).map fun t => ⟨n, messageFor r t⟩

lemma violation?_nil (r : Requirement) (n : Node) (name : Option String) :
    violation? r [] n name = none := by
  cases name <;> rfl

/-- A violation by an access to a property that is the last segment of a value. -/
def accessViolation? (s : Script) (r : Requirement) (n : Node) : Option Violation :=
  violation? r (lastSegments r.value) n (accessName s n)

/-- The violation of a requirement at a node, given the parent of the node. -/
def findingAt (s : Script) (n : Node) (parent : Option Node) (r : Requirement) :
    Option Violation :=
  match r.kind with
  | .bannedName =>
    if n.kind ∈ nameKinds then
      if ∃ p ∈ parent, p.kind ∈ labelKinds then none
      else violation? r (r.value.filter fun v => !v.toList.contains '.') n (some (s.spelling n))
    else if n.kind = "member_expression" then
      violation? r (r.value.filter fun v => v.toList.contains '.') n (chainName s n)
    else none
  | .bannedProperty => accessViolation? s r n
  | .bannedPropertyRead => if isAssignmentTarget n parent then none else accessViolation? s r n
  | .bannedPropertyWrite =>
    if n.kind ∈ assignmentKinds then (n.child? "left").bind (accessViolation? s r) else none
  | .bannedPropertyCall =>
    if n.kind = "call_expression" then (n.child? "function").bind (accessViolation? s r) else none
  | _ => none

section

variable (s : Script) (n : Node) (parent : Option Node) {r : Requirement}

lemma findingAt_bannedName (hk : r.kind = .bannedName) :
    findingAt s n parent r = if n.kind ∈ nameKinds then
        if ∃ p ∈ parent, p.kind ∈ labelKinds then none
        else violation? r (r.value.filter fun v => !v.toList.contains '.') n (some (s.spelling n))
      else if n.kind = "member_expression" then
        violation? r (r.value.filter fun v => v.toList.contains '.') n (chainName s n)
      else none := by
  rw [findingAt, hk]

lemma findingAt_bannedProperty (hk : r.kind = .bannedProperty) :
    findingAt s n parent r = accessViolation? s r n := by
  rw [findingAt, hk]

lemma findingAt_bannedPropertyRead (hk : r.kind = .bannedPropertyRead) :
    findingAt s n parent r =
      if isAssignmentTarget n parent then none else accessViolation? s r n := by
  rw [findingAt, hk]

lemma findingAt_bannedPropertyWrite (hk : r.kind = .bannedPropertyWrite) :
    findingAt s n parent r =
      if n.kind ∈ assignmentKinds then (n.child? "left").bind (accessViolation? s r) else none := by
  rw [findingAt, hk]

lemma findingAt_bannedPropertyCall (hk : r.kind = .bannedPropertyCall) :
    findingAt s n parent r = if n.kind = "call_expression" then
      (n.child? "function").bind (accessViolation? s r) else none := by
  rw [findingAt, hk]

end

section

variable [Script.Language]

/-- The violations at a node in the order of the requirements. A node of an unknown kind has one,
whatever the requirements. -/
def findingsAt (s : Script) (rs : List Requirement) (n : Node) (parent : Option Node) :
    List Violation :=
  if Script.isKnown n.kind then rs.filterMap (findingAt s n parent)
  else [⟨n, s!"Unrecognized node type {n.kind}"⟩]

/-- The violations of a script, node by node. -/
def findings (rs : List Requirement) (s : Script) : List Violation :=
  (s.root.preorder none).flatMap fun e => findingsAt s rs e.1 e.2

/-- The findings in the scripts of one path. Where no requirement applies there are none, also not
for nodes of an unknown kind. -/
def pathFindings (policy : Policy) (path : String) (scripts : List Script) : List Diagnostic :=
  let rs := policy.applicableTo path
  if rs.isEmpty then [] else scripts.flatMap fun s => (findings rs s).map (diagnose path s)

/-- The findings of a policy, path by path and script by script. -/
def plainLint (policy : Policy) (scripts : List (String × List Script)) : List Diagnostic :=
  scripts.flatMap fun e => pathFindings policy e.1 e.2

end

/-! ### The registrations of a requirement -/

/-- The tests of a requirement with their chains. -/
def entriesOf (r : Requirement) : List (Entry Test) :=
  ((registrations r).getD []).map fun g => ⟨⟨r, g.ask⟩, g.kind, g.steps⟩

lemma compile_eq (rs : List Requirement) : compile rs = Index.addAll (rs.flatMap entriesOf) := by
  rw [compile, Index.addAll, List.foldl_flatMap]
  congr 1
  funext i r
  rw [compileOne, entriesOf, List.foldl_map]

/-- The path under which tests on nodes of a kind ask for a child. -/
def stepPath (kind : String) : Option String :=
  if kind ∈ assignmentKinds then some "left"
  else if kind = "call_expression" then some "function"
  else none

/-- The chain of a test has at most one step, and its path depends on the kind of the node. -/
lemma entriesOf_shape {r : Requirement} {e : Entry Test} (he : e ∈ entriesOf r) :
    (stepPath e.kind = none ∧ e.steps = []) ∨
      ∃ p k, stepPath e.kind = some p ∧ e.steps = [⟨p, k⟩] := by
  obtain ⟨g, hg, rfl⟩ := List.mem_map.1 he
  have hname : ∀ k ∈ nameKinds, stepPath k = none := by decide
  have haccess : ∀ k ∈ accessKinds, stepPath k = none := by decide
  have hassign : ∀ k ∈ assignmentKinds, stepPath k = some "left" := by decide
  unfold registrations at hg
  cases hk : r.kind <;> simp only [hk, Option.getD_some, Option.getD_none] at hg
  case bannedName =>
    left
    rcases List.mem_append.1 hg with hg | hg
    · split_ifs at hg
      · cases hg
      · obtain ⟨k, hk, rfl⟩ := List.mem_map.1 hg
        exact ⟨hname k hk, rfl⟩
    · split_ifs at hg
      · cases hg
      · obtain rfl := List.mem_singleton.1 hg
        exact ⟨rfl, rfl⟩
  case bannedProperty =>
    obtain ⟨k, hk, rfl⟩ := List.mem_map.1 hg
    exact Or.inl ⟨haccess k hk, rfl⟩
  case bannedPropertyRead =>
    obtain ⟨k, hk, rfl⟩ := List.mem_map.1 hg
    exact Or.inl ⟨haccess k hk, rfl⟩
  case bannedPropertyWrite =>
    obtain ⟨a, ha, hg⟩ := List.mem_flatMap.1 hg
    obtain ⟨k, hk, rfl⟩ := List.mem_map.1 hg
    exact Or.inr ⟨"left", k, hassign a ha, rfl⟩
  case bannedPropertyCall =>
    obtain ⟨k, hk, rfl⟩ := List.mem_map.1 hg
    exact Or.inr ⟨"function", k, rfl, rfl⟩
  all_goals cases hg

lemma resolve_stepPath {kind p : String} (hp : stepPath kind = some p) (n : Node) :
    n.resolve p = .ok (n.child? p) := by
  have hfield : p = "left" ∨ p = "function" := by
    unfold stepPath at hp
    split_ifs at hp <;> simp_all
  have hparts : Node.pathParts p = [p.toList] := by
    rcases hfield with rfl | rfl <;> rfl
  have hdigits : ¬Node.IsDigits p.toList := by
    rw [Node.isDigits_iff]
    rcases hfield with rfl | rfl <;> decide
  rw [Node.resolve_eq, hparts, Node.follow_cons, Node.step_of_not_isDigits hdigits,
    String.ofList_toList]
  cases n.child? p <;> rfl

lemma entriesOf_resolves {rs : List Requirement} {e : Entry Test} (he : e ∈ rs.flatMap entriesOf)
    (n : Node) : e.Resolves n := by
  obtain ⟨r, -, he⟩ := List.mem_flatMap.1 he
  rcases entriesOf_shape he with ⟨-, hnil⟩ | ⟨p, k, hp, hsteps⟩
  · rw [Entry.Resolves, Entry.usable, hnil]
    trivial
  · rw [Entry.Resolves, Entry.usable, hsteps, List.takeWhile_cons]
    split_ifs
    · exact fun _ => ⟨_, resolve_stepPath hp n, fun c _ => trivial⟩
    · trivial

/-- The end of a chain of one step is a child of the kind that the step asks for. -/
lemma exists_arrive_of_target {kind p k : String} (h : (target n kind [⟨p, k⟩]).isSome) :
    ∃ c, arrive n p = some c ∧ c.kind = k := by
  have hn := kind_of_target h
  rw [target, if_pos hn, Option.isSome_bind] at h
  cases hc : arrive n p with
  | none =>
    rw [hc] at h
    cases h
  | some c =>
    rw [hc] at h
    exact ⟨c, rfl, kind_of_target h⟩

/-- Whatever the requirements, the tests that apply to a node all have the same chain. -/
lemma entriesOf_one_chain {rs : List Requirement} {n : Node} :
    ∀ e ∈ rs.flatMap entriesOf, ∀ e' ∈ rs.flatMap entriesOf, (target n e.kind e.steps).isSome →
      (target n e'.kind e'.steps).isSome → e.kind = e'.kind ∧ e.steps = e'.steps := by
  intro e he e' he' ht ht'
  obtain ⟨r, -, he⟩ := List.mem_flatMap.1 he
  obtain ⟨r', -, he'⟩ := List.mem_flatMap.1 he'
  have hkind : e.kind = e'.kind := (kind_of_target ht).symm.trans (kind_of_target ht')
  refine ⟨hkind, ?_⟩
  -- the kind of the node settles the path, and the child there settles the kind of the step
  rcases entriesOf_shape he with ⟨hp, hs⟩ | ⟨p, k, hp, hs⟩ <;>
    rcases entriesOf_shape he' with ⟨hp', hs'⟩ | ⟨p', k', hp', hs'⟩
  · rw [hs, hs']
  · rw [hkind, hp'] at hp
    cases hp
  · rw [hkind, hp'] at hp
    cases hp
  · rw [hs] at ht
    rw [hs'] at ht'
    obtain rfl : p = p' := Option.some.inj (hp.symm.trans (hkind ▸ hp'))
    obtain ⟨c, hc, rfl⟩ := exists_arrive_of_target ht
    obtain ⟨c', hc', rfl⟩ := exists_arrive_of_target ht'
    obtain rfl : c = c' := Option.some.inj (hc.symm.trans hc')
    rw [hs, hs']

lemma nameKinds_nodup : nameKinds.Nodup := by decide

lemma accessKinds_nodup : accessKinds.Nodup := by decide

/-- Of a family of entries for one node, each asking for another kind, at most one is a hit. -/
lemma hits_family {τ : Type} {t : τ} {m : Option Node} (entry : String → Entry τ)
    (htest : ∀ k, (entry k).test = t) (haccepted : ∀ k, (entry k).isAccepted)
    (htarget : ∀ k, target n (entry k).kind (entry k).steps = m.filter (·.kind = k))
    {ks : List String} (hks : ks.Nodup) :
    hits (ks.map entry) n = ((m.filter (·.kind ∈ ks)).map (t, ·)).toList := by
  induction ks with
  | nil => cases m <;> rfl
  | cons k ks ih =>
    obtain ⟨hk, hks⟩ := List.nodup_cons.1 hks
    have hhead : hits [entry k] n = ((m.filter (·.kind = k)).map (t, ·)).toList := by
      rw [hits_singleton, Entry.kept, if_pos (haccepted k), Entry.usable_eq (haccepted k),
        htarget, htest]
      rfl
    rw [List.map_cons, ← List.singleton_append, hits_append, ih hks, hhead]
    cases m with
    | none => rfl
    | some c =>
      by_cases h : c.kind = k
      · subst h
        simp [Option.filter_some, hk]
      · simp [Option.filter_some, h]

lemma hits_kinds {τ : Type} (t : τ) {ks : List String} (hks : ks.Nodup) :
    hits (ks.map fun k => ⟨t, k, []⟩) n = if n.kind ∈ ks then [(t, n)] else [] := by
  have htarget : ∀ k, target n k [] = (some n).filter (·.kind = k) := by
    intro k
    simp [target, Option.filter_some]
  refine (hits_family (⟨t, ·, []⟩) (fun _ => rfl) (fun _ => rfl) htarget hks).trans ?_
  by_cases h : n.kind ∈ ks <;> simp [Option.filter_some, h]

lemma hits_steps {τ : Type} (t : τ) (a : String) {p : String} (hp : p ≠ "") {ks : List String}
    (hks : ks.Nodup) : hits (ks.map fun k => ⟨t, a, [⟨p, k⟩]⟩) n =
      if n.kind = a then (((arrive n p).filter (·.kind ∈ ks)).map (t, ·)).toList else [] := by
  have htarget : ∀ k, target n a [⟨p, k⟩] =
      (if n.kind = a then arrive n p else none).filter (·.kind = k) := by
    intro k
    by_cases h : n.kind = a
    · cases hc : arrive n p <;> simp [target, Option.filter_some, h, hc]
    · simp [target, h]
  refine (hits_family (fun k => ⟨t, a, [⟨p, k⟩]⟩) (fun _ => rfl) (fun _ => ?_) htarget hks).trans ?_
  · simp [Entry.isAccepted, hp]
  · by_cases h : n.kind = a <;> simp [h]

/-! ### Running the tests at a node -/

section

variable {m : Node} {parent : Option Node} {r : Requirement} {banned : List String}

lemma run_name (h : s.OnBoundaries m) :
    (⟨r, .name banned⟩ : Test).run s m n parent = .ok (if ∃ p ∈ parent, p.kind ∈ labelKinds
      then none else violation? r banned m (some (s.spelling m))) := by
  have hlabel : ((parent.map fun p => labelKinds.contains p.kind).getD false = true) ↔
      ∃ p ∈ parent, p.kind ∈ labelKinds := by
    cases parent <;> simp
  rw [Test.run, Ask.found, Script.textOf_eq h]
  simp only [hlabel]
  split_ifs
  · rfl
  · simp only [Except.map, violation?, Option.filter_some]

lemma run_chain (h : s.OnBoundaries m) :
    (⟨r, .chain banned⟩ : Test).run s m n parent =
      .ok (violation? r banned m (chainName s m)) := by
  rw [Test.run, Ask.found, dottedName_eq h]
  rfl

lemma run_access (h : s.OnBoundaries m) :
    (⟨r, .access banned⟩ : Test).run s m n parent =
      .ok (violation? r banned m (accessName s m)) := by
  rw [Test.run, Ask.found, accessedProperty_eq h]
  rfl

lemma run_read (h : s.OnBoundaries m) :
    (⟨r, .read banned⟩ : Test).run s m n parent = .ok (if isAssignmentTarget n parent then none
      else violation? r banned m (accessName s m)) := by
  rw [Test.run, Ask.found, accessedProperty_eq h]
  split_ifs <;> rfl

lemma runTests_singleton {t : Test} {v : Option Violation} (h : t.run s m n parent = .ok v) :
    runTests s n parent [(t, m)] = .ok v.toList := by
  rw [runTests, h]
  simp [runTests, bind, Except.bind, pure, Except.pure]

lemma runTests_append {ts us : List (Test × Node)} {vs ws : List Violation}
    (ht : runTests s n parent ts = .ok vs) (hu : runTests s n parent us = .ok ws) :
    runTests s n parent (ts ++ us) = .ok (vs ++ ws) := by
  induction ts generalizing vs with
  | nil =>
    obtain rfl : [] = vs := Except.ok.inj ht
    exact hu
  | cons t ts ih =>
    obtain ⟨t, m⟩ := t
    obtain ⟨v, hv, ht⟩ := bind_eq_ok.1 ht
    obtain ⟨more, hmore, ht⟩ := bind_eq_ok.1 ht
    obtain rfl : v.toList ++ more = vs := Except.ok.inj ht
    rw [List.append_assoc]
    exact bind_eq_ok.2 ⟨v, hv, bind_eq_ok.2 ⟨more ++ ws, ih hmore, rfl⟩⟩

/-- The tests of all requirements find at a node what each requirement finds there. -/
lemma runTests_flatMap {rs : List Requirement} {tests : Requirement → List (Test × Node)}
    {finding : Requirement → Option Violation}
    (h : ∀ r ∈ rs, runTests s n parent (tests r) = .ok (finding r).toList) :
    runTests s n parent (rs.flatMap tests) = .ok (rs.filterMap finding) := by
  induction rs with
  | nil => rfl
  | cons r rs ih =>
    have hr := h r List.mem_cons_self
    have hrs := ih fun r' hr' => h r' (List.mem_cons_of_mem _ hr')
    rw [List.flatMap_cons, runTests_append hr hrs]
    cases hf : finding r <;> simp [hf]

end

lemma accessName_of_not_access (h : n.kind ∉ accessKinds) : accessName s n = none := by
  have h' : n.kind ≠ "member_expression" ∧ n.kind ≠ "subscript_expression" := by
    simpa [accessKinds] using h
  rw [accessName, if_neg h'.1, if_neg h'.2]

lemma accessViolation?_of_not_access (r : Requirement) (h : n.kind ∉ accessKinds) :
    accessViolation? s r n = none := by
  rw [accessViolation?, accessName_of_not_access h]
  rfl

lemma arrive_stepPath {kind p : String} (hp : stepPath kind = some p) (n : Node) :
    arrive n p = n.child? p :=
  arrive_eq (resolve_stepPath hp n)

section

variable {parent : Option Node}

/-- A test on nodes of some kinds is run on the nodes of these kinds. -/
lemma runTests_kinds {t : Test} {v : Option Violation} (hrun : t.run s n n parent = .ok v)
    {ks : List String} (hks : ks.Nodup) :
    runTests s n parent (hits (ks.map fun k => ⟨t, k, []⟩) n) =
      .ok (if n.kind ∈ ks then v else none).toList := by
  rw [hits_kinds t hks]
  split_ifs
  · exact runTests_singleton hrun
  · rfl

/-- A test that bans nothing may be left out. -/
lemma runTests_kinds_unless {t : Test} {v : Option Violation} (hrun : t.run s n n parent = .ok v)
    {banned : List String} (hv : banned = [] → v = none) {ks : List String} (hks : ks.Nodup) :
    runTests s n parent (hits (if banned.isEmpty then [] else ks.map fun k => ⟨t, k, []⟩) n) =
      .ok (if n.kind ∈ ks then v else none).toList := by
  by_cases hempty : banned.isEmpty
  · rw [if_pos hempty, hv (List.isEmpty_iff.1 hempty), ite_self]
    rfl
  · rw [if_neg hempty]
    exact runTests_kinds hrun hks

end

section

variable (h : s.OnBoundaries n) (parent : Option Node) (r : Requirement)
include h

lemma runTests_names (names : List String) :
    runTests s n parent (hits (if names.isEmpty then []
      else nameKinds.map fun k => ⟨⟨r, .name names⟩, k, []⟩) n) =
        .ok (if n.kind ∈ nameKinds then if ∃ p ∈ parent, p.kind ∈ labelKinds then none
          else violation? r names n (some (s.spelling n)) else none).toList := by
  refine runTests_kinds_unless (run_name h) (fun hnil => ?_) nameKinds_nodup
  rw [hnil, violation?_nil, ite_self]

lemma runTests_chains (chains : List String) :
    runTests s n parent (hits (if chains.isEmpty then []
      else ["member_expression"].map fun k => ⟨⟨r, .chain chains⟩, k, []⟩) n) =
        .ok (if n.kind ∈ ["member_expression"] then violation? r chains n (chainName s n)
          else none).toList := by
  refine runTests_kinds_unless (run_chain h) (fun hnil => ?_) (List.nodup_singleton _)
  rw [hnil, violation?_nil]

/-- The test on accesses, registered one step below a kind, is run on the child the step leads
to. -/
lemma runTests_steps {a p : String} (hp : stepPath a = some p) (hne : p ≠ "") :
    runTests s n parent (hits (accessKinds.map fun k =>
      ⟨⟨r, .access (lastSegments r.value)⟩, a, [⟨p, k⟩]⟩) n) =
        .ok (if n.kind = a then (n.child? p).bind (accessViolation? s r) else none).toList := by
  rw [hits_steps _ _ hne accessKinds_nodup, arrive_stepPath hp]
  split_ifs with hn
  · cases hc : n.child? p with
    | none => rfl
    | some m =>
      rw [Option.filter_some, Option.bind_some]
      by_cases hm : m.kind ∈ accessKinds
      · rw [if_pos (by simpa using hm)]
        exact runTests_singleton (run_access (h.child? hc))
      · rw [if_neg (by simpa using hm), accessViolation?_of_not_access r hm]
        rfl
  · rfl

lemma runTests_bannedName (hk : r.kind = .bannedName) :
    runTests s n parent (hits (entriesOf r) n) = .ok (findingAt s n parent r).toList := by
  set names := r.value.filter fun v => !v.toList.contains '.' with hnames
  set chains := r.value.filter fun v => v.toList.contains '.' with hchains
  have hentries : entriesOf r =
      (if names.isEmpty then [] else nameKinds.map fun k => ⟨⟨r, .name names⟩, k, []⟩) ++
        if chains.isEmpty then []
        else ["member_expression"].map fun k => ⟨⟨r, .chain chains⟩, k, []⟩ := by
    rw [entriesOf, registrations, hk]
    simp only [Option.getD_some, List.map_append, ← hnames, ← hchains]
    split_ifs <;> rfl
  rw [hentries, hits_append,
    runTests_append (runTests_names h parent r names) (runTests_chains h parent r chains),
    findingAt_bannedName s n parent hk]
  -- a node is not both a name and a member expression, so at most one of the two tests finds
  by_cases hn : n.kind ∈ nameKinds
  · have hmember : n.kind ∉ ["member_expression"] :=
      (show ∀ k ∈ nameKinds, k ∉ ["member_expression"] by decide) _ hn
    rw [if_pos hn, if_pos hn, if_neg hmember]
    exact congrArg _ (List.append_nil _)
  · rw [if_neg hn, if_neg hn]
    simp only [List.mem_singleton]
    rfl

lemma runTests_bannedProperty (hk : r.kind = .bannedProperty) :
    runTests s n parent (hits (entriesOf r) n) = .ok (findingAt s n parent r).toList := by
  have hentries : entriesOf r =
      accessKinds.map fun k => ⟨⟨r, .access (lastSegments r.value)⟩, k, []⟩ := by
    rw [entriesOf, registrations, hk]
    rfl
  rw [hentries, runTests_kinds (run_access h) accessKinds_nodup,
    findingAt_bannedProperty s n parent hk]
  split_ifs with hn
  · rfl
  · rw [accessViolation?_of_not_access r hn]

lemma runTests_bannedPropertyRead (hk : r.kind = .bannedPropertyRead) :
    runTests s n parent (hits (entriesOf r) n) = .ok (findingAt s n parent r).toList := by
  have hentries : entriesOf r =
      accessKinds.map fun k => ⟨⟨r, .read (lastSegments r.value)⟩, k, []⟩ := by
    rw [entriesOf, registrations, hk]
    rfl
  rw [hentries, runTests_kinds (run_read h) accessKinds_nodup,
    findingAt_bannedPropertyRead s n parent hk]
  split_ifs with hn htarget htarget
  · rfl
  · rfl
  · rfl
  · rw [accessViolation?_of_not_access r hn]

lemma runTests_bannedPropertyWrite (hk : r.kind = .bannedPropertyWrite) :
    runTests s n parent (hits (entriesOf r) n) = .ok (findingAt s n parent r).toList := by
  have hentries : entriesOf r = assignmentKinds.flatMap fun a => accessKinds.map fun k =>
      ⟨⟨r, .access (lastSegments r.value)⟩, a, [⟨"left", k⟩]⟩ := by
    rw [entriesOf, registrations, hk]
    rfl
  have hplain := runTests_steps h parent r
    (show stepPath "assignment_expression" = some "left" from rfl) (by decide)
  have haugmented := runTests_steps h parent r
    (show stepPath "augmented_assignment_expression" = some "left" from rfl) (by decide)
  have hne : "assignment_expression" ≠ "augmented_assignment_expression" := by decide
  rw [hentries, hits_flatMap, assignmentKinds, List.flatMap_cons, List.flatMap_singleton,
    runTests_append hplain haugmented, findingAt_bannedPropertyWrite s n parent hk]
  by_cases hn : n.kind = "assignment_expression"
  · rw [if_pos hn, if_neg (hn ▸ hne), if_pos (by simp [assignmentKinds, hn])]
    exact congrArg _ (List.append_nil _)
  · rw [if_neg hn]
    simp [assignmentKinds, hn]

lemma runTests_bannedPropertyCall (hk : r.kind = .bannedPropertyCall) :
    runTests s n parent (hits (entriesOf r) n) = .ok (findingAt s n parent r).toList := by
  have hentries : entriesOf r = accessKinds.map fun k =>
      ⟨⟨r, .access (lastSegments r.value)⟩, "call_expression", [⟨"function", k⟩]⟩ := by
    rw [entriesOf, registrations, hk]
    rfl
  rw [hentries, findingAt_bannedPropertyCall s n parent hk]
  exact runTests_steps h parent r rfl (by decide)

/-- **A requirement finds at a node what its tests find there.** -/
lemma runTests_entriesOf :
    runTests s n parent (hits (entriesOf r) n) = .ok (findingAt s n parent r).toList := by
  cases hk : r.kind with
  | bannedName => exact runTests_bannedName h parent r hk
  | bannedProperty => exact runTests_bannedProperty h parent r hk
  | bannedPropertyRead => exact runTests_bannedPropertyRead h parent r hk
  | bannedPropertyWrite => exact runTests_bannedPropertyWrite h parent r hk
  | bannedPropertyCall => exact runTests_bannedPropertyCall h parent r hk
  | _ =>
    rw [entriesOf, registrations, findingAt, hk]
    rfl

end

/-! ### From nodes to policies -/

section

variable [Script.Language]

/-- **At one node** the index finds what the requirements find there, in their order. -/
lemma checkNode_eq (h : s.OnBoundaries n) (rs : List Requirement) (parent : Option Node) :
    checkNode (compile rs) s n parent = .ok (findingsAt s rs n parent) := by
  unfold checkNode findingsAt
  split_ifs with hknown
  · have hresolves : ∀ e ∈ rs.flatMap entriesOf, e.Resolves n :=
      fun e he => entriesOf_resolves he n
    obtain ⟨edges, hok, -⟩ := lookup_addAll hresolves
    have hruns := runs_eq_hits hok entriesOf_one_chain
    rw [hits_flatMap] at hruns
    rw [← compile_eq] at hok
    refine bind_eq_ok.2 ⟨edges, hok, ?_⟩
    change runTests s n parent (runs edges) = _
    rw [hruns]
    exact runTests_flatMap fun r _ => runTests_entriesOf h parent r
  · rfl

lemma checkNodes_eq {es : List (Node × Option Node)} (h : ∀ e ∈ es, s.OnBoundaries e.1)
    (rs : List Requirement) :
    checkNodes (compile rs) s es = .ok (es.flatMap fun e => findingsAt s rs e.1 e.2) := by
  induction es with
  | nil => rfl
  | cons e es ih =>
    have hhead := checkNode_eq (h e List.mem_cons_self) rs e.2
    have htail := ih fun e' he' => h e' (List.mem_cons_of_mem _ he')
    exact bind_eq_ok.2 ⟨_, hhead, bind_eq_ok.2 ⟨_, htail, rfl⟩⟩

lemma checkScript_eq (h : s.OnBoundaries s.root) (rs : List Requirement) :
    checkScript (compile rs) s = .ok (findings rs s) := by
  rw [checkScript, Node.walkWithParents_eq]
  exact checkNodes_eq (fun e he => h.visited he) rs

lemma lintPath_eq {scripts : List Script} (h : ∀ s ∈ scripts, s.OnBoundaries s.root)
    (rs : List Requirement) (path : String) : lintPath rs path scripts =
      .ok (scripts.flatMap fun s => (findings rs s).map (diagnose path s)) := by
  unfold lintPath
  induction scripts with
  | nil => rfl
  | cons s scripts ih =>
    have hhead := checkScript_eq (h s List.mem_cons_self) rs
    have htail := ih fun s' hs' => h s' (List.mem_cons_of_mem _ hs')
    exact bind_eq_ok.2 ⟨_, hhead, bind_eq_ok.2 ⟨_, htail, rfl⟩⟩

lemma lint_cons {policy : Policy} {path : String} {ss : List Script}
    {rest : List (String × List Script)} {ds : List Diagnostic}
    (h : ∀ s ∈ ss, s.OnBoundaries s.root) (hrest : lint policy rest = .ok ds) :
    lint policy ((path, ss) :: rest) = .ok (pathFindings policy path ss ++ ds) := by
  rw [lint, pathFindings]
  by_cases hempty : (policy.applicableTo path).isEmpty
  · rw [if_pos hempty, if_pos hempty, hrest]
    rfl
  · rw [if_neg hempty, if_neg hempty, lintPath_eq h, hrest]
    rfl

/-- **Checking through the index is checking node by node.** For scripts whose byte ranges fall
between characters, the findings of a policy are those of the plain list: paths, scripts, named
nodes in pre-order, and at each node the requirements that apply, in their order. -/
theorem lint_eq_plainLint (policy : Policy) (scripts : List (String × List Script))
    (h : ∀ e ∈ scripts, ∀ s ∈ e.2, s.OnBoundaries s.root) :
    lint policy scripts = .ok (plainLint policy scripts) := by
  induction scripts with
  | nil => rfl
  | cons e scripts ih =>
    have htail := ih fun e' he' => h e' (List.mem_cons_of_mem _ he')
    exact lint_cons (h e List.mem_cons_self) htail

end

/-- `é.b = eval`, followed by a node the grammar has no place for. -/
def assignmentScript : Script where
  root := .mk "program" 0 11 none true
    [.mk "assignment_expression" 0 11 none true
      [.mk "member_expression" 0 4 (some "left") true
        [.mk "identifier" 0 2 (some "object") true [],
         .mk "property_identifier" 3 4 (some "property") true []],
       .mk "=" 5 6 none false [],
       .mk "identifier" 7 11 (some "right") true []],
     .mk "ERROR" 11 11 none true []]
  text := "é.b = eval"

/-- A grammar with the kinds of its nodes. -/
abbrev assignmentGrammar : Script.Language :=
  .ofTrees ["program", "assignment_expression", "member_expression", "identifier",
    "property_identifier"] []

def assignmentPolicy : Policy where
  requirements :=
    [{ kind := .bannedPropertyWrite, value := ["Node.prototype.b"] },
     { kind := .bannedName, value := ["eval", "é.b"], errorMessage := some "not this name" },
     { kind := .bannedPropertyRead, value := ["b"] },
     { kind := .bannedProperty, value := ["b"], exempt := some ⟨["lib"], []⟩ }]

theorem lint_assignmentScript : letI := assignmentGrammar
    (∀ e ∈ [("src/a.js", [assignmentScript]), ("lib/b.js", [assignmentScript])],
      ∀ s ∈ e.2, s.OnBoundaries s.root) ∧
    lint assignmentPolicy [("src/a.js", [assignmentScript]), ("lib/b.js", [assignmentScript])] =
      .ok (plainLint assignmentPolicy
        [("src/a.js", [assignmentScript]), ("lib/b.js", [assignmentScript])]) ∧
    (plainLint assignmentPolicy
      [("src/a.js", [assignmentScript]), ("lib/b.js", [assignmentScript])]).map
        (fun d => (d.filename, d.location.column, d.message)) =
      [("src/a.js", 0, "b violates BANNED_PROPERTY_WRITE requirement"),
       ("src/a.js", 0, "not this name"), ("src/a.js", 0, "b violates BANNED_PROPERTY requirement"),
       ("src/a.js", 6, "not this name"), ("src/a.js", 10, "Unrecognized node type ERROR"),
       ("lib/b.js", 0, "b violates BANNED_PROPERTY_WRITE requirement"),
       ("lib/b.js", 0, "not this name"), ("lib/b.js", 6, "not this name"),
       ("lib/b.js", 10, "Unrecognized node type ERROR")] := by
  let _ := assignmentGrammar
  refine ⟨by decide, lint_eq_plainLint _ _ (by decide), ?_⟩
  decide +kernel

end ComponentLint.Conformance
