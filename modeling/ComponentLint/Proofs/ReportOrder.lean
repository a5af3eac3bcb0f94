import ComponentLint.Proofs.PlainFindings
import ComponentLint.Proofs.ScriptPlaces

/-!
The order in which violations are reported.

A walk over a tree whose nodes stand in the order of the text visits them by their starts. What is
reported at a visit is the visited node, or the child its kind is written first with, at the same
start; so the findings in a script come in the order of their places.
-/

namespace ComponentLint.Conformance

open Script (Node)

/-! ### Walking in the order of the text -/

/-- The named children of a node lie within it, one after the other. -/
structure Nested (n : Node) : Prop where
  range : n.start ≤ n.stop
  within : ∀ c ∈ n.namedChildren, n.start ≤ c.start ∧ c.stop ≤ n.stop
  ordered : n.namedChildren.Pairwise fun c d => c.stop ≤ d.start

/-- An assignment starts with its left side, and a call with its function. -/
structure StartsWithTarget (n : Node) : Prop where
  left : n.kind ∈ assignmentKinds → ∀ c ∈ n.child? "left", c.start = n.start
  function : n.kind = "call_expression" → ∀ c ∈ n.child? "function", c.start = n.start

/-- The nodes that are visited stand in the order of the text. -/
def InOrder (root : Node) : Prop :=
  ∀ e ∈ root.preorder none, Nested e.1 ∧ StartsWithTarget e.1

instance (n : Node) : Decidable (Nested n) :=
  decidable_of_iff
    (n.start ≤ n.stop ∧ (∀ c ∈ n.namedChildren, n.start ≤ c.start ∧ c.stop ≤ n.stop) ∧
      n.namedChildren.Pairwise fun c d => c.stop ≤ d.start)
    ⟨fun ⟨hrange, hwithin, hordered⟩ => ⟨hrange, hwithin, hordered⟩, fun h => ⟨h.1, h.2, h.3⟩⟩

instance (n : Node) : Decidable (StartsWithTarget n) :=
  decidable_of_iff ((n.kind ∈ assignmentKinds → ∀ c ∈ n.child? "left", c.start = n.start) ∧
      (n.kind = "call_expression" → ∀ c ∈ n.child? "function", c.start = n.start))
    ⟨fun ⟨hleft, hfunction⟩ => ⟨hleft, hfunction⟩, fun h => ⟨h.1, h.2⟩⟩

instance (root : Node) : Decidable (InOrder root) :=
  inferInstanceAs (Decidable (∀ e ∈ root.preorder none, _))

lemma mem_preorder_of_child {n c : Node} {parent : Option Node} {e : Node × Option Node}
    (hc : c ∈ n.namedChildren) (he : e ∈ c.preorder (some n)) : e ∈ n.preorder parent := by
  rw [Node.preorder_eq]
  exact List.mem_cons_of_mem _ (List.mem_flatMap.2 ⟨c, hc, he⟩)

/-- What is visited below a node lies within it. -/
lemma range_of_mem_preorder {n : Node} {parent : Option Node} {e : Node × Option Node}
    (h : ∀ e ∈ n.preorder parent, Nested e.1) (he : e ∈ n.preorder parent) :
    n.start ≤ e.1.start ∧ e.1.stop ≤ n.stop := by
  have hn : Nested n := h (n, parent) (by rw [Node.preorder_eq]; exact List.mem_cons_self)
  rw [Node.preorder_eq, List.mem_cons, List.mem_flatMap] at he
  rcases he with rfl | ⟨c, hc, he⟩
  · exact ⟨le_rfl, le_rfl⟩
  · have hlt : c.size < n.size := Node.size_lt_of_mem_children (List.mem_of_mem_filter hc)
    have hrange := range_of_mem_preorder (fun e he => h e (mem_preorder_of_child hc he)) he
    have hwithin := hn.within c hc
    exact ⟨hwithin.1.trans hrange.1, hrange.2.trans hwithin.2⟩
termination_by n.size

/-- **A walk visits nodes by their starts.** -/
lemma preorder_sorted {n : Node} {parent : Option Node} (h : ∀ e ∈ n.preorder parent, Nested e.1) :
    (n.preorder parent).Pairwise fun e e' => e.1.start ≤ e'.1.start := by
  have hn : Nested n := h (n, parent) (by rw [Node.preorder_eq]; exact List.mem_cons_self)
  have hchild : ∀ c ∈ n.namedChildren, ∀ e ∈ c.preorder (some n), Nested e.1 :=
    fun c hc e he => h e (mem_preorder_of_child hc he)
  have hhead : ∀ e ∈ n.preorder parent, n.start ≤ e.1.start :=
    fun e he => (range_of_mem_preorder h he).1
  rw [Node.preorder_eq] at hhead ⊢
  refine List.pairwise_cons.2 ⟨fun e he => hhead e (List.mem_cons_of_mem _ he), ?_⟩
  refine List.pairwise_flatMap.2 ⟨fun c hc => ?_, ?_⟩
  · have hlt : c.size < n.size := Node.size_lt_of_mem_children (List.mem_of_mem_filter hc)
    exact preorder_sorted (hchild c hc)
  · refine hn.ordered.imp_of_mem fun {c d} hc hd hcd e he e' he' => ?_
    have hstop := (range_of_mem_preorder (hchild c hc) he).2
    have hstart := (range_of_mem_preorder (hchild d hd) he').1
    have hrange := (hchild c hc e he).range
    omega
termination_by n.size

/-! ### The nodes that are reported at a visit -/

variable {s : Script} {rs : List Requirement} {n : Node} {parent : Option Node}

lemma node_of_run {t : Test} {m : Node} {v : Violation} (h : t.run s m n parent = .ok (some v)) :
    v.node = m := by
  rw [Test.run] at h
  cases hask : t.ask.found s m n parent with
  | error e => rw [hask] at h; cases h
  | ok name =>
    rw [hask] at h
    obtain ⟨_, -, rfl⟩ := Option.map_eq_some_iff.1 (Except.ok.inj h)
    rfl

lemma node_of_mem_runTests {ts : List (Test × Node)} {vs : List Violation}
    (h : runTests s n parent ts = .ok vs) {v : Violation} (hv : v ∈ vs) :
    ∃ t ∈ ts, v.node = t.2 := by
  induction ts generalizing vs with
  | nil =>
    obtain rfl : [] = vs := Except.ok.inj h
    cases hv
  | cons t ts ih =>
    obtain ⟨test, m⟩ := t
    obtain ⟨found, hfound, h⟩ := bind_eq_ok.1 h
    obtain ⟨more, hmore, h⟩ := bind_eq_ok.1 h
    obtain rfl : found.toList ++ more = vs := Except.ok.inj h
    rcases List.mem_append.1 hv with hv | hv
    · rw [Option.mem_toList] at hv
      rw [Option.mem_def.1 hv] at hfound
      exact ⟨_, List.mem_cons_self, node_of_run hfound⟩
    · obtain ⟨t, ht, hnode⟩ := ih hmore hv
      exact ⟨t, List.mem_cons_of_mem _ ht, hnode⟩

/-- A chain of a requirement ends at the node it starts from, or at the child that the kind of the
node has tests on. -/
lemma target_of_entriesOf {e : Entry Test} {m : Node} (he : e ∈ rs.flatMap entriesOf)
    (ht : target n e.kind e.steps = some m) :
    m = n ∨ ∃ p, stepPath n.kind = some p ∧ n.child? p = some m := by
  obtain ⟨r, -, he⟩ := List.mem_flatMap.1 he
  have hkind : n.kind = e.kind := kind_of_target (by rw [ht]; rfl)
  rcases entriesOf_shape he with ⟨-, hsteps⟩ | ⟨p, k, hpath, hsteps⟩ <;>
    rw [hsteps, target, if_pos hkind] at ht
  · exact Or.inl (Option.some.inj ht).symm
  · obtain ⟨c, hc, hct⟩ := Option.bind_eq_some_iff.1 ht
    rw [target] at hct
    split_ifs at hct
    cases hct
    rw [arrive_stepPath hpath] at hc
    exact Or.inr ⟨p, hkind ▸ hpath, hc⟩

section

variable [Script.Language]

/-- **What is reported at a visit** is the node itself or the child that its kind has tests on. -/
lemma node_of_mem_checkNode {vs : List Violation}
    (h : checkNode (compile rs) s n parent = .ok vs) {v : Violation} (hv : v ∈ vs) :
    v.node = n ∨ ∃ p, stepPath n.kind = some p ∧ n.child? p = some v.node := by
  unfold checkNode at h
  split_ifs at h
  swap
  · cases h
    exact Or.inl (by rw [List.mem_singleton.1 hv])
  obtain ⟨edges, hok, hruns⟩ := bind_eq_ok.1 h
  rw [compile_eq] at hok
  change runTests s n parent (runs edges) = .ok vs at hruns
  rw [runs_eq_hits hok entriesOf_one_chain] at hruns
  obtain ⟨⟨test, m⟩, ht, hnode⟩ := node_of_mem_runTests hruns hv
  obtain ⟨e, he, htarget⟩ := List.mem_filterMap.1 ht
  obtain ⟨m', hm', hpair⟩ := Option.map_eq_some_iff.1 htarget
  cases hpair
  rw [hnode]
  exact target_of_entriesOf (List.mem_of_mem_filter he) hm'

lemma StartsWithTarget.start_eq (h : StartsWithTarget n) {vs : List Violation}
    (hvs : checkNode (compile rs) s n parent = .ok vs) {v : Violation} (hv : v ∈ vs) :
    v.node.start = n.start := by
  rcases node_of_mem_checkNode hvs hv with hnode | ⟨p, hpath, hchild⟩
  · rw [hnode]
  · unfold stepPath at hpath
    split_ifs at hpath with hassign hcall
    · cases hpath
      exact h.left hassign _ hchild
    · cases hpath
      exact h.function hcall _ hchild

/-! ### Scripts -/

/-- What is reported on the way has the starts of the visits, in their order. -/
lemma checkNodes_sorted {i : Index Test} {es : List (Node × Option Node)} {vs : List Violation}
    (hes : es.Pairwise fun e e' => e.1.start ≤ e'.1.start)
    (hat : ∀ e ∈ es, ∀ vs, checkNode i s e.1 e.2 = .ok vs → ∀ v ∈ vs, v.node.start = e.1.start)
    (h : checkNodes i s es = .ok vs) :
    (vs.Pairwise fun v w => v.node.start ≤ w.node.start) ∧
      ∀ v ∈ vs, ∃ e ∈ es, v.node.start = e.1.start := by
  induction es generalizing vs with
  | nil =>
    obtain rfl : [] = vs := Except.ok.inj h
    exact ⟨.nil, nofun⟩
  | cons e es ih =>
    obtain ⟨hhead, hes⟩ := List.pairwise_cons.1 hes
    obtain ⟨here, hhere, h⟩ := bind_eq_ok.1 h
    obtain ⟨more, hmore, h⟩ := bind_eq_ok.1 h
    obtain rfl : here ++ more = vs := Except.ok.inj h
    have hstart := hat e List.mem_cons_self here hhere
    obtain ⟨hsorted, hfrom⟩ := ih hes (fun e' he' => hat e' (List.mem_cons_of_mem _ he')) hmore
    constructor
    · refine List.pairwise_append.2 ⟨?_, hsorted, fun v hv w hw => ?_⟩
      · exact List.pairwise_of_forall_mem_list fun v hv w hw => by rw [hstart v hv, hstart w hw]
      · obtain ⟨e', he', hw'⟩ := hfrom w hw
        rw [hstart v hv, hw']
        exact hhead e' he'
    · refine List.forall_mem_append.2 ⟨fun v hv => ⟨e, List.mem_cons_self, hstart v hv⟩, ?_⟩
      intro v hv
      obtain ⟨e', he', hv'⟩ := hfrom v hv
      exact ⟨e', List.mem_cons_of_mem _ he', hv'⟩

lemma checkScript_sorted {vs : List Violation} (hs : InOrder s.root)
    (h : checkScript (compile rs) s = .ok vs) :
    vs.Pairwise fun v w => v.node.start ≤ w.node.start := by
  rw [checkScript, Node.walkWithParents_eq] at h
  exact (checkNodes_sorted (preorder_sorted fun e he => (hs e he).1)
    (fun e he vs hvs v hv => (hs e he).2.start_eq hvs hv) h).1

lemma lintScripts_append {i : Index Test} {path : String} {ss ts : List Script}
    {ds : List Diagnostic} (h : lintScripts i path (ss ++ ts) = .ok ds) :
    ∃ ds₁ ds₂, lintScripts i path ss = .ok ds₁ ∧ lintScripts i path ts = .ok ds₂ ∧
      ds = ds₁ ++ ds₂ := by
  induction ss generalizing ds with
  | nil => exact ⟨[], ds, rfl, h, rfl⟩
  | cons s ss ih =>
    obtain ⟨vs, hvs, h⟩ := bind_eq_ok.1 h
    obtain ⟨rest, hrest, h⟩ := bind_eq_ok.1 h
    obtain ⟨ds₁, ds₂, hds₁, hds₂, rfl⟩ := ih hrest
    obtain rfl := Except.ok.inj h
    refine ⟨_, ds₂, bind_eq_ok.2 ⟨vs, hvs, bind_eq_ok.2 ⟨ds₁, hds₁, rfl⟩⟩, hds₂, ?_⟩
    rw [List.append_assoc]

/-- The findings in one script come in the order of their places. -/
lemma lintPath_sorted {path : String} {here : List Diagnostic} (hs : InOrder s.root)
    (h : lintPath rs path [s] = .ok here) :
    here.Pairwise fun d e => d.location.key ≤ e.location.key := by
  obtain ⟨vs, hvs, h⟩ := bind_eq_ok.1 h
  obtain ⟨rest, hrest, h⟩ := bind_eq_ok.1 h
  obtain rfl : [] = rest := Except.ok.inj hrest
  obtain rfl := Except.ok.inj h
  rw [List.append_nil, List.pairwise_map]
  exact (checkScript_sorted hs hvs).imp fun hstart => s.locationOf_mono hstart

/-- **Findings are reported in the order of their places.** If the tree of a script stands in the
order of the text, the part of the findings under a path that is of this script goes by lines and
columns, whatever the requirements and whatever other scripts there are. That there are findings, or
none, and no fault is sure if the byte ranges of the scripts fall between characters. -/
theorem lintPath_in_order (rs : List Requirement) (path : String) (before after : List Script)
    (s : Script) (hs : InOrder s.root) :
    (∀ ds, lintPath rs path (before ++ s :: after) = .ok ds → ∃ ds₁ here ds₂,
      lintPath rs path before = .ok ds₁ ∧ lintPath rs path [s] = .ok here ∧
      lintPath rs path after = .ok ds₂ ∧ ds = ds₁ ++ here ++ ds₂ ∧
      here.Pairwise fun d e => d.location.key ≤ e.location.key) ∧
    ((∀ t ∈ before ++ s :: after, t.OnBoundaries t.root) →
      ∃ ds, lintPath rs path (before ++ s :: after) = .ok ds) := by
  refine ⟨fun ds hds => ?_, fun h => ⟨_, lintPath_eq h rs path⟩⟩
  obtain ⟨ds₁, rest, hds₁, hrest, rfl⟩ := lintScripts_append hds
  rw [← List.singleton_append] at hrest
  obtain ⟨here, ds₂, hhere, hds₂, rfl⟩ := lintScripts_append hrest
  exact ⟨ds₁, here, ds₂, hds₁, hhere, hds₂, (List.append_assoc _ _ _).symm,
    lintPath_sorted hs hhere⟩

end

/-- `é.b = a.b()` and `eval` on the next line. -/
def twoLines : Script where
  root := .mk "program" 0 17 none true
    [.mk "assignment_expression" 0 12 none true
      [.mk "member_expression" 0 4 (some "left") true
        [.mk "identifier" 0 2 (some "object") true [],
         .mk "property_identifier" 3 4 (some "property") true []],
       .mk "=" 5 6 none false [],
       .mk "call_expression" 7 12 (some "right") true
        [.mk "member_expression" 7 10 (some "function") true
          [.mk "identifier" 7 8 (some "object") true [],
           .mk "property_identifier" 9 10 (some "property") true []],
         .mk "arguments" 10 12 (some "arguments") true []]],
     .mk "identifier" 13 17 none true []]
  text := "é.b = a.b()\neval"

def twoLinesBans : List Requirement :=
  [{ kind := .bannedName, value := ["eval", "é.b"] },
   { kind := .bannedPropertyCall, value := ["b"] },
   { kind := .bannedPropertyWrite, value := ["b"] }]

/-- A grammar with the kinds of its nodes. -/
abbrev twoLinesGrammar : Script.Language :=
  .ofTrees ["program", "assignment_expression", "member_expression", "identifier",
    "property_identifier", "call_expression", "arguments"] []

/-- The write is reported from the assignment, before the name that is met within it. -/
theorem lintPath_twoLines : letI := twoLinesGrammar
    InOrder twoLines.root ∧ ∃ ds, lintPath twoLinesBans "a.js" [twoLines] = .ok ds ∧
      (ds.Pairwise fun d e => d.location.key ≤ e.location.key) ∧
      ds.map (fun d => (d.location.line, d.location.column, d.message)) =
        [(1, 0, "b violates BANNED_PROPERTY_WRITE requirement"),
         (1, 0, "é.b violates BANNED_NAME requirement"),
         (1, 6, "b violates BANNED_PROPERTY_CALL requirement"),
         (2, 0, "eval violates BANNED_NAME requirement")] := by
  let _ := twoLinesGrammar
  have horder : InOrder twoLines.root := by decide
  obtain ⟨hsorted, hok⟩ := lintPath_in_order twoLinesBans "a.js" [] [] twoLines horder
  obtain ⟨ds, hds⟩ := hok (by decide)
  obtain ⟨ds₁, here, ds₂, -, hhere, -, -, hpairwise⟩ := hsorted ds hds
  obtain rfl : here = ds := Except.ok.inj (hhere.symm.trans hds)
  have hlist : (lintPath twoLinesBans "a.js" [twoLines]).toOption.map
      (·.map fun d => (d.location.line, d.location.column, d.message)) =
        some [(1, 0, "b violates BANNED_PROPERTY_WRITE requirement"),
          (1, 0, "é.b violates BANNED_NAME requirement"),
          (1, 6, "b violates BANNED_PROPERTY_CALL requirement"),
          (2, 0, "eval violates BANNED_NAME requirement")] := by
    decide +kernel
  rw [hhere] at hlist
  exact ⟨horder, here, hhere, hpairwise, Option.some.inj hlist⟩

end ComponentLint.Conformance
