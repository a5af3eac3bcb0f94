import ComponentLint.Conformance.Index
import Mathlib

/-!
What a look-up in an index runs.

An index is built by registering tests one after another under chains of kinds and paths. Looking
a node up runs every test whose chain leads somewhere from that node, once for each time it was
registered. What one registration adds is stated for `insert` and carried over to any sequence of
registrations, refused ones included.
-/

namespace ComponentLint.Conformance

open Script (Node)

variable {τ : Type}

/-! ### Chains -/

/-- The node at the end of a path, if the path leads anywhere. -/
def arrive (n : Node) (path : String) : Option Node := (n.resolve path).toOption.join

/-- The node at the end of a chain that starts at a node of its first kind and finds a node of the
right kind after each step. -/
def target : Node → String → List Step → Option Node
  | n, kind, [] => if n.kind = kind then some n else none
  | n, kind, s :: steps =>
    if n.kind = kind then (arrive n s.path).bind (target · s.kind steps) else none

lemma arrive_eq {n : Node} {path : String} {found : Option Node}
    (h : n.resolve path = .ok found) : arrive n path = found := by
  rw [arrive, h]
  cases found <;> rfl

lemma target_of_kind_ne {n : Node} {kind : String} (h : n.kind ≠ kind) (steps : List Step) :
    target n kind steps = none := by
  cases steps <;> rw [target, if_neg h]

lemma kind_of_target {n : Node} {kind : String} {steps : List Step}
    (h : (target n kind steps).isSome) : n.kind = kind := by
  by_contra hn
  rw [target_of_kind_ne hn] at h
  cases h

/-- No path of a chain fails on the way from a node, as far as the kinds agree. -/
def Resolves : Node → String → List Step → Prop
  | _, _, [] => True
  | n, kind, s :: steps =>
    n.kind = kind → ∃ found, n.resolve s.path = .ok found ∧ ∀ c ∈ found, Resolves c s.kind steps

/-- A test with the chain it is to be registered under. -/
structure Entry (τ : Type) where
  test : τ
  kind : String
  steps : List Step

namespace Entry

/-- Every step of the chain has a path. -/
def isAccepted (e : Entry τ) : Bool := e.steps.all (·.path ≠ "")

/-- The steps before the first one without a path. -/
def usable (e : Entry τ) : List Step := e.steps.takeWhile (·.path ≠ "")

/-- The test, unless the chain is refused. -/
def kept (e : Entry τ) : Option τ := if e.isAccepted then some e.test else none

/-- The paths the entry leaves in an index do not fail from a node. A refused entry leaves those
before its empty path. -/
def Resolves (e : Entry τ) (n : Node) : Prop := Conformance.Resolves n e.kind e.usable

lemma usable_eq {e : Entry τ} (h : e.isAccepted) : e.usable = e.steps := by
  rw [usable, List.takeWhile_eq_self_iff]
  simpa [isAccepted] using h

end Entry

/-- The index after registering entries one by one. -/
def Index.addAll (es : List (Entry τ)) : Index τ :=
  es.foldl (fun i e => (i.add e.test e.kind e.steps).1) .nil

/-- The tests of the edges a look-up returns, in the order in which they are run. -/
def runs (edges : List (List τ × Node)) : List (τ × Node) :=
  edges.flatMap fun e => e.1.map (·, e.2)

@[simp] lemma runs_nil : runs ([] : List (List τ × Node)) = [] := rfl

@[simp] lemma runs_append (es fs : List (List τ × Node)) : runs (es ++ fs) = runs es ++ runs fs :=
  List.flatMap_append

@[simp] lemma runs_cons (ts : List τ) (n : Node) (es : List (List τ × Node)) :
    runs ((ts, n) :: es) = ts.map (·, n) ++ runs es := rfl

lemma runs_own (ts : List τ) (n : Node) :
    runs (if ts.isEmpty then [] else [(ts, n)]) = ts.map (·, n) := by
  cases ts <;> simp

/-! ### One registration -/

section

variable {test : Option τ} {kind : String} {steps : List Step} {tests : List τ} {s : Step}
variable {below : Branches τ} {rest : Index τ} {index : Index τ} {more : Branches τ}

lemma Index.insert_edge_nil : (Index.edge kind tests below rest).insert test kind [] =
    .edge kind (tests ++ test.toList) below rest := by
  simp [Index.insert]

lemma Index.insert_edge_cons : (Index.edge kind tests below rest).insert test kind (s :: steps) =
    .edge kind tests (below.insert test s steps) rest := by
  simp [Index.insert]

lemma Index.insert_edge_ne {k : String} (h : k ≠ kind) :
    (Index.edge k tests below rest).insert test kind steps =
      .edge k tests below (rest.insert test kind steps) := by
  cases steps <;> simp [Index.insert, h]

lemma Branches.insert_branch_self : (Branches.branch s.path index more).insert test s steps =
    .branch s.path (index.insert test s.kind steps) more := by
  simp [Branches.insert]

lemma Branches.insert_branch_ne {path : String} (h : path ≠ s.path) :
    (Branches.branch path index more).insert test s steps =
      .branch path index (more.insert test s steps) := by
  simp [Branches.insert, h]

end

lemma Index.insert_none_nil (kind : String) : ∀ i : Index τ, i.insert none kind [] = i
  | .nil => by rw [Index.insert, Index.fresh]
  | .edge k tests below rest => by
    by_cases h : k = kind
    · subst h
      rw [insert_edge_nil, Option.toList_none, List.append_nil]
    · rw [insert_edge_ne h, insert_none_nil kind rest]

/-- A refused entry makes room for its usable steps and is otherwise not there. -/
lemma Index.add_eq (i : Index τ) (e : Entry τ) :
    i.add e.test e.kind e.steps = (i.insert e.kept e.kind e.usable,
      if e.isAccepted then .ok () else .error .emptyChildPath) := by
  have hlen : e.usable.length = e.steps.length ↔ e.isAccepted := by
    rw [Entry.isAccepted, List.all_eq_true, Entry.usable, ← List.takeWhile_eq_self_iff]
    exact ⟨(List.takeWhile_sublist _).eq_of_length, fun h => by rw [h]⟩
  change (if e.usable.length = e.steps.length then _ else _ : Index τ × Except Fault Unit) = _
  by_cases h : e.isAccepted
  · rw [if_pos (hlen.2 h), Entry.kept, if_pos h, if_pos h, Entry.usable_eq h]
  · rw [if_neg (hlen.not.2 h), Entry.kept, if_neg h, if_neg h]
    change (if e.usable.isEmpty then i else i.insert none e.kind e.usable, _) = _
    split_ifs with hnil
    · rw [List.isEmpty_iff.1 hnil, insert_none_nil]
    · rfl

/-- What a test that was not refused is run on. -/
def paired (test : Option τ) (m : Option Node) : List (τ × Node) :=
  (test.bind fun t => m.map (t, ·)).toList

@[simp] lemma paired_none (test : Option τ) : paired test none = [] := by
  cases test <;> rfl

lemma paired_some (test : Option τ) (m : Node) : paired test (some m) = test.toList.map (·, m) := by
  cases test <;> rfl

lemma bind_eq_ok {ε α β : Type} {x : Except ε α} {f : α → Except ε β} {b : β} :
    x >>= f = .ok b ↔ ∃ a, x = .ok a ∧ f a = .ok b := by
  cases x with
  | error e => exact ⟨nofun, nofun⟩
  | ok a => exact ⟨fun h => ⟨a, rfl, h⟩, fun ⟨_, h, hb⟩ => by cases h; exact hb⟩

lemma Index.lookup_edge_self {n : Node} {tests : List τ} {below : Branches τ} {rest : Index τ}
    {edges : List (List τ × Node)} :
    (Index.edge n.kind tests below rest).lookup n = .ok edges ↔
      ∃ deeper, below.lookup n = .ok deeper ∧
        (if tests.isEmpty then [] else [(tests, n)]) ++ deeper = edges := by
  rw [Index.lookup, if_pos rfl, bind_eq_ok]
  simp only [pure, Except.pure, Except.ok.injEq]

lemma Index.lookup_edge_ne {n : Node} {kind : String} (h : kind ≠ n.kind) (tests : List τ)
    (below : Branches τ) (rest : Index τ) :
    (Index.edge kind tests below rest).lookup n = rest.lookup n := by
  rw [Index.lookup, if_neg h]

lemma Branches.lookup_branch {n : Node} {path : String} {index : Index τ} {rest : Branches τ}
    {edges : List (List τ × Node)} :
    (Branches.branch path index rest).lookup n = .ok edges ↔
      ∃ found, n.resolve path = .ok found ∧
        ∃ here, (found.elim (.ok []) fun c => index.lookup c) = .ok here ∧
          ∃ more, rest.lookup n = .ok more ∧ here ++ more = edges := by
  rw [Branches.lookup, bind_eq_ok]
  refine exists_congr fun found => and_congr_right fun _ => ?_
  cases found <;> simp only [bind_eq_ok, pure, Except.pure, Except.ok.injEq, Option.elim]

/-- A chain on its own runs its test where it leads. -/
lemma Index.lookup_fresh (test : Option τ) {n : Node} {kind : String} {steps : List Step}
    (h : Resolves n kind steps) :
    ∃ edges, (Index.fresh test kind steps).lookup n = .ok edges ∧
      runs edges = paired test (target n kind steps) := by
  induction steps generalizing n kind with
  | nil =>
    rw [target]
    cases test with
    | none => exact ⟨[], rfl, rfl⟩
    | some t =>
      by_cases hk : n.kind = kind
      · subst hk
        exact ⟨[([t], n)], lookup_edge_self.2 ⟨[], rfl, rfl⟩, by rw [if_pos rfl]; rfl⟩
      · refine ⟨[], ?_, by rw [if_neg hk, paired_none]; rfl⟩
        rw [Index.fresh, lookup_edge_ne (Ne.symm hk), Index.lookup]
  | cons s steps ih =>
    rw [target]
    by_cases hk : n.kind = kind
    · subst hk
      obtain ⟨found, hfound, hrest⟩ := h rfl
      obtain ⟨here, hhere, hruns⟩ : ∃ here,
          (found.elim (.ok []) fun c => (Index.fresh test s.kind steps).lookup c) = .ok here ∧
            runs here = paired test (found.bind (target · s.kind steps)) := by
        cases found with
        | none => exact ⟨[], rfl, (paired_none test).symm⟩
        | some c => exact ih (hrest c rfl)
      refine ⟨here, lookup_edge_self.2 ⟨here, ?_, rfl⟩, by rw [if_pos rfl, arrive_eq hfound, hruns]⟩
      exact Branches.lookup_branch.2 ⟨found, hfound, here, hhere, [], rfl, List.append_nil _⟩
    · refine ⟨[], ?_, by rw [if_neg hk, paired_none]; rfl⟩
      rw [Index.fresh, lookup_edge_ne (Ne.symm hk), Index.lookup]

/-- A chain that starts with another kind than that of a node does not concern the node. -/
lemma Index.lookup_insert_of_kind_ne (test : Option τ) {n : Node} {kind : String}
    (h : kind ≠ n.kind) (steps : List Step) :
    ∀ i : Index τ, (i.insert test kind steps).lookup n = i.lookup n
  | .nil => by
    rw [Index.insert]
    cases steps with
    | nil => cases test <;> simp [Index.fresh, Index.lookup, h]
    | cons s steps => rw [Index.fresh, lookup_edge_ne h]
  | .edge k tests below rest => by
    by_cases hk : k = kind
    · subst hk
      cases steps with
      | nil => rw [insert_edge_nil, lookup_edge_ne h, lookup_edge_ne h]
      | cons s steps => rw [insert_edge_cons, lookup_edge_ne h, lookup_edge_ne h]
    · have ih := lookup_insert_of_kind_ne test h steps rest
      rw [insert_edge_ne hk, Index.lookup, Index.lookup, ih]

mutual

/-- **One registration adds its own test to every look-up**, at the end of its chain, and changes
nothing else. -/
lemma Index.lookup_insert (test : Option τ) {n : Node} {kind : String} {steps : List Step}
    (h : Resolves n kind steps) : ∀ {i : Index τ} {edges : List (List τ × Node)},
    i.lookup n = .ok edges → ∃ edges', (i.insert test kind steps).lookup n = .ok edges' ∧
      (runs edges').Perm (runs edges ++ paired test (target n kind steps))
  | .nil, edges, hok => by
    obtain rfl : [] = edges := Except.ok.inj hok
    rw [Index.insert]
    obtain ⟨edges', hok', hruns⟩ := Index.lookup_fresh test h
    exact ⟨edges', hok', List.Perm.of_eq hruns⟩
  | .edge k tests below rest, edges, hok => by
    by_cases hn : kind = n.kind
    · subst hn
      by_cases hk : k = n.kind
      · subst hk
        obtain ⟨deeper, hdeeper, rfl⟩ := Index.lookup_edge_self.1 hok
        cases steps with
        | nil =>
          rw [Index.insert_edge_nil, target, if_pos rfl, paired_some]
          refine ⟨_, Index.lookup_edge_self.2 ⟨deeper, hdeeper, rfl⟩, ?_⟩
          simp only [runs_append, runs_own, List.map_append, List.append_assoc]
          exact List.perm_append_comm.append_left _
        | cons s more =>
          obtain ⟨deeper', hdeeper', hperm⟩ := Branches.lookup_insert test (h rfl) hdeeper
          rw [Index.insert_edge_cons, target, if_pos rfl]
          refine ⟨_, Index.lookup_edge_self.2 ⟨deeper', hdeeper', rfl⟩, ?_⟩
          rw [runs_append, runs_append, List.append_assoc]
          exact hperm.append_left _
      · rw [Index.lookup_edge_ne hk] at hok
        obtain ⟨edges', hok', hperm⟩ := Index.lookup_insert test h hok
        refine ⟨edges', ?_, hperm⟩
        rw [Index.insert_edge_ne hk, Index.lookup_edge_ne hk, hok']
    · refine ⟨edges, ?_, ?_⟩
      · rw [Index.lookup_insert_of_kind_ne test hn, hok]
      · rw [target_of_kind_ne (Ne.symm hn), paired_none, List.append_nil]

lemma Branches.lookup_insert (test : Option τ) {n : Node} {s : Step} {steps : List Step}
    (h : ∃ found, n.resolve s.path = .ok found ∧ ∀ c ∈ found, Resolves c s.kind steps) :
    ∀ {b : Branches τ} {edges : List (List τ × Node)},
    b.lookup n = .ok edges → ∃ edges', (b.insert test s steps).lookup n = .ok edges' ∧
      (runs edges').Perm
        (runs edges ++ paired test ((arrive n s.path).bind (target · s.kind steps)))
  | .nil, edges, hok => by
    obtain rfl : [] = edges := Except.ok.inj hok
    obtain ⟨found, hfound, hrest⟩ := h
    rw [arrive_eq hfound]
    cases found with
    | none =>
      exact ⟨[], Branches.lookup_branch.2 ⟨none, hfound, [], rfl, [], rfl, rfl⟩, by simp⟩
    | some c =>
      obtain ⟨here, hhere, hruns⟩ := Index.lookup_fresh test (hrest c rfl)
      refine ⟨here, Branches.lookup_branch.2 ⟨some c, hfound, here, hhere, [], rfl, by simp⟩, ?_⟩
      exact List.Perm.of_eq hruns
  | .branch path index rest, edges, hok => by
    obtain ⟨there, hthere, here, hhere, more, hmore, rfl⟩ := Branches.lookup_branch.1 hok
    by_cases hp : path = s.path
    · subst hp
      obtain ⟨found, hfound, hrest⟩ := h
      obtain rfl : there = found := Except.ok.inj (hthere.symm.trans hfound)
      rw [Branches.insert_branch_self, arrive_eq hfound]
      cases there with
      | none =>
        exact ⟨here ++ more,
          Branches.lookup_branch.2 ⟨none, hthere, here, hhere, more, hmore, rfl⟩, by simp⟩
      | some c =>
        obtain ⟨here', hhere', hperm⟩ := Index.lookup_insert test (hrest c rfl) hhere
        refine ⟨here' ++ more,
          Branches.lookup_branch.2 ⟨some c, hthere, here', hhere', more, hmore, rfl⟩, ?_⟩
        rw [runs_append, runs_append, List.append_assoc]
        refine (hperm.append_right _).trans ?_
        rw [List.append_assoc]
        exact List.perm_append_comm.append_left _
    · obtain ⟨more', hmore', hperm⟩ := Branches.lookup_insert test h hmore
      rw [Branches.insert_branch_ne hp]
      refine ⟨here ++ more',
        Branches.lookup_branch.2 ⟨there, hthere, here, hhere, more', hmore', rfl⟩, ?_⟩
      rw [runs_append, runs_append, List.append_assoc]
      exact hperm.append_left _

end

/-! ### Paths that fail -/

lemma resolves_of_kind_ne {n : Node} {kind : String} (h : n.kind ≠ kind) (steps : List Step) :
    Resolves n kind steps := by
  cases steps with
  | nil => trivial
  | cons s steps => exact fun hk => absurd hk h

lemma Index.resolves_of_lookup_fresh {test : Option τ} {n : Node} {kind : String}
    {steps : List Step} {edges : List (List τ × Node)}
    (hok : (Index.fresh test kind steps).lookup n = .ok edges) : Resolves n kind steps := by
  induction steps generalizing n kind edges with
  | nil => trivial
  | cons s steps ih =>
    rintro rfl
    obtain ⟨deeper, hdeeper, -⟩ := lookup_edge_self.1 hok
    obtain ⟨found, hfound, here, hhere, -⟩ := Branches.lookup_branch.1 hdeeper
    refine ⟨found, hfound, ?_⟩
    rintro c rfl
    exact ih hhere

mutual

/-- A look-up that succeeds after a registration follows the new paths without failing. -/
lemma Index.resolves_of_lookup_insert {test : Option τ} {n : Node} {kind : String}
    {steps : List Step} : ∀ {i : Index τ} {edges : List (List τ × Node)},
    (i.insert test kind steps).lookup n = .ok edges →
      (∃ before, i.lookup n = .ok before) ∧ Resolves n kind steps
  | .nil, edges, hok => by
    rw [Index.insert] at hok
    exact ⟨⟨[], rfl⟩, Index.resolves_of_lookup_fresh hok⟩
  | .edge k tests below rest, edges, hok => by
    by_cases hn : kind = n.kind
    · subst hn
      by_cases hk : k = n.kind
      · subst hk
        cases steps with
        | nil =>
          rw [Index.insert_edge_nil] at hok
          obtain ⟨deeper, hdeeper, -⟩ := Index.lookup_edge_self.1 hok
          exact ⟨⟨_, Index.lookup_edge_self.2 ⟨deeper, hdeeper, rfl⟩⟩, trivial⟩
        | cons s more =>
          rw [Index.insert_edge_cons] at hok
          obtain ⟨deeper, hdeeper, -⟩ := Index.lookup_edge_self.1 hok
          obtain ⟨⟨before, hbefore⟩, hres⟩ := Branches.resolves_of_lookup_insert hdeeper
          exact ⟨⟨_, Index.lookup_edge_self.2 ⟨before, hbefore, rfl⟩⟩, fun _ => hres⟩
      · rw [Index.insert_edge_ne hk, Index.lookup_edge_ne hk] at hok
        rw [Index.lookup_edge_ne hk]
        exact Index.resolves_of_lookup_insert hok
    · rw [Index.lookup_insert_of_kind_ne test hn] at hok
      exact ⟨⟨edges, hok⟩, resolves_of_kind_ne (Ne.symm hn) steps⟩

lemma Branches.resolves_of_lookup_insert {test : Option τ} {n : Node} {s : Step}
    {steps : List Step} : ∀ {b : Branches τ} {edges : List (List τ × Node)},
    (b.insert test s steps).lookup n = .ok edges → (∃ before, b.lookup n = .ok before) ∧
      ∃ found, n.resolve s.path = .ok found ∧ ∀ c ∈ found, Resolves c s.kind steps
  | .nil, edges, hok => by
    rw [Branches.insert] at hok
    obtain ⟨found, hfound, here, hhere, -⟩ := Branches.lookup_branch.1 hok
    refine ⟨⟨[], rfl⟩, found, hfound, ?_⟩
    rintro c rfl
    exact Index.resolves_of_lookup_fresh hhere
  | .branch path index rest, edges, hok => by
    by_cases hp : path = s.path
    · subst hp
      rw [Branches.insert_branch_self] at hok
      obtain ⟨found, hfound, here, hhere, more, hmore, -⟩ := Branches.lookup_branch.1 hok
      cases found with
      | none =>
        exact ⟨⟨_, Branches.lookup_branch.2 ⟨none, hfound, [], rfl, more, hmore, rfl⟩⟩,
          none, hfound, nofun⟩
      | some c =>
        obtain ⟨⟨before, hbefore⟩, hres⟩ := Index.resolves_of_lookup_insert hhere
        refine ⟨⟨_, Branches.lookup_branch.2 ⟨some c, hfound, before, hbefore, more, hmore, rfl⟩⟩,
          some c, hfound, ?_⟩
        rintro _ ⟨⟩
        exact hres
    · rw [Branches.insert_branch_ne hp] at hok
      obtain ⟨found, hfound, here, hhere, more, hmore, -⟩ := Branches.lookup_branch.1 hok
      obtain ⟨⟨before, hbefore⟩, hres⟩ := Branches.resolves_of_lookup_insert hmore
      exact ⟨⟨_, Branches.lookup_branch.2 ⟨found, hfound, here, hhere, before, hbefore, rfl⟩⟩, hres⟩

end

/-! ### The tests of one chain -/

mutual

/-- The tests registered under a chain. -/
def Index.testsAt (kind : String) (steps : List Step) : Index τ → List τ
  | .nil => []
  | .edge k tests below rest =>
    if k = kind then
      match steps with
      | [] => tests
      | s :: more => below.testsAt s more
    else rest.testsAt kind steps

def Branches.testsAt (s : Step) (steps : List Step) : Branches τ → List τ
  | .nil => []
  | .branch path index rest =>
    if path = s.path then index.testsAt s.kind steps else rest.testsAt s steps

end

section

variable {kind : String} {steps : List Step} {tests : List τ} {s : Step}
variable {below : Branches τ} {rest : Index τ} {index : Index τ} {more : Branches τ}

lemma Index.testsAt_edge_nil : (Index.edge kind tests below rest).testsAt kind [] = tests := by
  simp [Index.testsAt]

lemma Index.testsAt_edge_cons : (Index.edge kind tests below rest).testsAt kind (s :: steps) =
    below.testsAt s steps := by
  simp [Index.testsAt]

lemma Index.testsAt_edge_ne {k : String} (h : k ≠ kind) :
    (Index.edge k tests below rest).testsAt kind steps = rest.testsAt kind steps := by
  cases steps <;> simp [Index.testsAt, h]

lemma Branches.testsAt_branch_self : (Branches.branch s.path index more).testsAt s steps =
    index.testsAt s.kind steps := by
  simp [Branches.testsAt]

lemma Branches.testsAt_branch_ne {path : String} (h : path ≠ s.path) :
    (Branches.branch path index more).testsAt s steps = more.testsAt s steps := by
  simp [Branches.testsAt, h]

end

lemma Index.testsAt_fresh (test : Option τ) (kind kind' : String) (steps steps' : List Step) :
    (Index.fresh test kind steps).testsAt kind' steps' =
      if kind = kind' ∧ steps = steps' then test.toList else [] := by
  induction steps generalizing kind kind' steps' with
  | nil =>
    cases test with
    | none => simp [Index.fresh, Index.testsAt]
    | some t =>
      by_cases hk : kind = kind'
      · subst hk
        cases steps' <;> simp [Index.fresh, Index.testsAt, Branches.testsAt]
      · simp [Index.fresh, testsAt_edge_ne hk, Index.testsAt, hk]
  | cons s steps ih =>
    rw [Index.fresh]
    by_cases hk : kind = kind'
    · subst hk
      cases steps' with
      | nil => simp [testsAt_edge_nil]
      | cons s' steps' =>
        obtain ⟨path, k⟩ := s
        obtain ⟨path', k'⟩ := s'
        simp [testsAt_edge_cons, Branches.testsAt, ih, ← ite_and, and_assoc]
    · simp [Index.testsAt, hk]

mutual

lemma Index.testsAt_insert (test : Option τ) (kind kind' : String) (steps steps' : List Step) :
    ∀ i : Index τ, (i.insert test kind steps).testsAt kind' steps' =
      i.testsAt kind' steps' ++ if kind = kind' ∧ steps = steps' then test.toList else []
  | .nil => by
    rw [Index.insert, Index.testsAt_fresh, Index.testsAt, List.nil_append]
  | .edge k tests below rest => by
    by_cases hk : k = kind
    · subst hk
      by_cases hk' : k = kind'
      · subst hk'
        cases steps with
        | nil =>
          rw [Index.insert_edge_nil]
          cases steps' <;> simp [Index.testsAt_edge_nil, Index.testsAt_edge_cons]
        | cons s more =>
          rw [Index.insert_edge_cons]
          cases steps' with
          | nil => simp [Index.testsAt_edge_nil]
          | cons s' more' =>
            rw [Index.testsAt_edge_cons, Index.testsAt_edge_cons,
              Branches.testsAt_insert test s s' more more' below]
            simp
      · rw [if_neg (fun h => hk' h.1), List.append_nil, Index.testsAt_edge_ne hk']
        cases steps with
        | nil => rw [Index.insert_edge_nil, Index.testsAt_edge_ne hk']
        | cons s more => rw [Index.insert_edge_cons, Index.testsAt_edge_ne hk']
    · rw [Index.insert_edge_ne hk]
      by_cases hk' : k = kind'
      · subst hk'
        rw [if_neg (fun h => hk h.1.symm), List.append_nil]
        cases steps' with
        | nil => rw [Index.testsAt_edge_nil, Index.testsAt_edge_nil]
        | cons s' more' => rw [Index.testsAt_edge_cons, Index.testsAt_edge_cons]
      · rw [Index.testsAt_edge_ne hk', Index.testsAt_edge_ne hk',
          Index.testsAt_insert test kind kind' steps steps' rest]

lemma Branches.testsAt_insert (test : Option τ) (s s' : Step) (steps steps' : List Step) :
    ∀ b : Branches τ, (b.insert test s steps).testsAt s' steps' =
      b.testsAt s' steps' ++ if s = s' ∧ steps = steps' then test.toList else []
  | .nil => by
    obtain ⟨path, k⟩ := s
    obtain ⟨path', k'⟩ := s'
    simp [Branches.insert, Branches.testsAt, Index.testsAt_fresh, ← ite_and, and_assoc]
  | .branch path index rest => by
    have ihIndex := Index.testsAt_insert test s.kind s'.kind steps steps' index
    have ihRest := Branches.testsAt_insert test s s' steps steps' rest
    obtain ⟨p, k⟩ := s
    obtain ⟨p', k'⟩ := s'
    by_cases hp : path = p <;> by_cases hp' : path = p'
    · subst hp hp'
      simpa [Branches.insert, Branches.testsAt] using ihIndex
    · subst hp
      simp [Branches.insert, Branches.testsAt, hp']
    · subst hp'
      simp [Branches.insert, Branches.testsAt, hp, Ne.symm hp]
    · simpa [Branches.insert, Branches.testsAt, hp, hp'] using ihRest

end

mutual

/-- The tests of a chain stand together in one edge of a look-up at whose node the chain ends. -/
lemma Index.mem_lookup {m : Node} : ∀ {i : Index τ} {n : Node} {kind : String} {steps : List Step}
    {edges : List (List τ × Node)}, i.lookup n = .ok edges → target n kind steps = some m →
    i.testsAt kind steps ≠ [] → (i.testsAt kind steps, m) ∈ edges
  | .nil, n, kind, steps, edges, hok, ht, hne => by
    exact absurd (by rw [Index.testsAt]) hne
  | .edge k tests below rest, n, kind, steps, edges, hok, ht, hne => by
    obtain rfl : n.kind = kind := kind_of_target (by rw [ht]; rfl)
    by_cases hk : k = n.kind
    · subst hk
      obtain ⟨deeper, hdeeper, rfl⟩ := Index.lookup_edge_self.1 hok
      cases steps with
      | nil =>
        rw [Index.testsAt_edge_nil] at hne ⊢
        rw [target, if_pos rfl] at ht
        obtain rfl : n = m := Option.some.inj ht
        simp [hne]
      | cons s more =>
        rw [Index.testsAt_edge_cons] at hne ⊢
        rw [target, if_pos rfl] at ht
        obtain ⟨c, hc, ht⟩ := Option.bind_eq_some_iff.1 ht
        exact List.mem_append_right _ (Branches.mem_lookup hdeeper hc ht hne)
    · rw [Index.lookup_edge_ne hk] at hok
      rw [Index.testsAt_edge_ne hk] at hne ⊢
      exact Index.mem_lookup hok ht hne

lemma Branches.mem_lookup {m : Node} : ∀ {b : Branches τ} {n c : Node} {s : Step}
    {steps : List Step} {edges : List (List τ × Node)}, b.lookup n = .ok edges →
    arrive n s.path = some c → target c s.kind steps = some m → b.testsAt s steps ≠ [] →
    (b.testsAt s steps, m) ∈ edges
  | .nil, n, c, s, steps, edges, hok, hc, ht, hne => by
    exact absurd (by rw [Branches.testsAt]) hne
  | .branch path index rest, n, c, s, steps, edges, hok, hc, ht, hne => by
    obtain ⟨found, hfound, here, hhere, more, hmore, rfl⟩ := Branches.lookup_branch.1 hok
    by_cases hp : path = s.path
    · subst hp
      obtain rfl : found = some c := by rw [← arrive_eq hfound, hc]
      rw [Branches.testsAt_branch_self] at hne ⊢
      exact List.mem_append_left _ (Index.mem_lookup hhere ht hne)
    · rw [Branches.testsAt_branch_ne hp] at hne ⊢
      exact List.mem_append_right _ (Branches.mem_lookup hmore hc ht hne)

end

/-! ### The number of tests -/

lemma Index.testCount_fresh (test : Option τ) (kind : String) (steps : List Step) :
    (Index.fresh test kind steps).testCount = test.toList.length := by
  induction steps generalizing kind with
  | nil => cases test <;> simp [Index.fresh, Index.testCount, Branches.testCount]
  | cons s steps ih => simp [Index.fresh, Index.testCount, Branches.testCount, ih]

mutual

lemma Index.testCount_insert (test : Option τ) (kind : String) (steps : List Step) :
    ∀ i : Index τ, (i.insert test kind steps).testCount = i.testCount + test.toList.length
  | .nil => by rw [Index.insert, Index.testCount_fresh, Index.testCount, Nat.zero_add]
  | .edge k tests below rest => by
    by_cases hk : k = kind
    · subst hk
      cases steps with
      | nil =>
        rw [Index.insert_edge_nil, Index.testCount, Index.testCount, List.length_append]
        omega
      | cons s more =>
        have ih := Branches.testCount_insert test s more below
        rw [Index.insert_edge_cons, Index.testCount, Index.testCount, ih]
        omega
    · have ih := Index.testCount_insert test kind steps rest
      rw [Index.insert_edge_ne hk, Index.testCount, Index.testCount, ih]
      omega

lemma Branches.testCount_insert (test : Option τ) (s : Step) (steps : List Step) :
    ∀ b : Branches τ, (b.insert test s steps).testCount = b.testCount + test.toList.length
  | .nil => by
    simp [Branches.insert, Branches.testCount, Index.testCount_fresh]
  | .branch path index rest => by
    by_cases hp : path = s.path
    · subst hp
      have ih := Index.testCount_insert test s.kind steps index
      rw [Branches.insert_branch_self, Branches.testCount, Branches.testCount, ih]
      omega
    · have ih := Branches.testCount_insert test s steps rest
      rw [Branches.insert_branch_ne hp, Branches.testCount, Branches.testCount, ih]
      omega

end

/-! ### Any sequence of registrations -/

lemma Index.addAll_append (es : List (Entry τ)) (e : Entry τ) :
    Index.addAll (es ++ [e]) = (Index.addAll es).insert e.kept e.kind e.usable := by
  rw [Index.addAll, List.foldl_append, List.foldl_cons, List.foldl_nil, Index.add_eq]
  rfl

/-- The accepted entries whose chain leads somewhere from a node, as what is to be run. -/
def hits (es : List (Entry τ)) (n : Node) : List (τ × Node) :=
  (es.filter (·.isAccepted)).filterMap fun e => (target n e.kind e.steps).map (e.test, ·)

/-- The accepted tests of one chain in the order of registration. -/
def testsOf (es : List (Entry τ)) (kind : String) (steps : List Step) : List τ :=
  ((es.filter (·.isAccepted)).filter fun e => e.kind = kind ∧ e.steps = steps).map (·.test)

lemma hits_append (es fs : List (Entry τ)) (n : Node) :
    hits (es ++ fs) n = hits es n ++ hits fs n := by
  rw [hits, List.filter_append, List.filterMap_append]
  rfl

lemma hits_flatMap {α : Type} (l : List α) (f : α → List (Entry τ)) (n : Node) :
    hits (l.flatMap f) n = l.flatMap fun a => hits (f a) n := by
  rw [hits, List.filter_flatMap, List.filterMap_flatMap]
  rfl

lemma hits_singleton (e : Entry τ) (n : Node) :
    hits [e] n = paired e.kept (target n e.kind e.usable) := by
  by_cases h : e.isAccepted
  · rw [Entry.kept, if_pos h, Entry.usable_eq h]
    cases ht : target n e.kind e.steps <;> simp [hits, h, ht, paired]
  · simp [hits, h, Entry.kept, paired]

lemma testsAt_addAll (es : List (Entry τ)) (kind : String) (steps : List Step) :
    (Index.addAll es).testsAt kind steps = testsOf es kind steps := by
  induction es using List.reverseRecOn with
  | nil => rw [Index.addAll, List.foldl_nil, Index.testsAt]; rfl
  | append_singleton es e ih =>
    rw [Index.addAll_append, Index.testsAt_insert, ih, testsOf, testsOf, List.filter_append,
      List.filter_append, List.map_append]
    congr 1
    by_cases h : e.isAccepted
    · rw [Entry.kept, if_pos h, Entry.usable_eq h]
      by_cases hc : e.kind = kind ∧ e.steps = steps <;> simp [h, hc]
    · simp [h, Entry.kept]

lemma testCount_addAll (es : List (Entry τ)) :
    (Index.addAll es).testCount = (es.filter (·.isAccepted)).length := by
  induction es using List.reverseRecOn with
  | nil => rw [Index.addAll, List.foldl_nil, Index.testCount]; rfl
  | append_singleton es e ih =>
    rw [Index.addAll_append, Index.testCount_insert, ih, List.filter_append, List.length_append]
    by_cases h : e.isAccepted <;> simp [h, Entry.kept]

lemma lookup_addAll {es : List (Entry τ)} {n : Node} (h : ∀ e ∈ es, e.Resolves n) :
    ∃ edges, (Index.addAll es).lookup n = .ok edges ∧ (runs edges).Perm (hits es n) := by
  induction es using List.reverseRecOn with
  | nil => exact ⟨[], by rw [Index.addAll, List.foldl_nil, Index.lookup], by simp [hits]⟩
  | append_singleton es e ih =>
    obtain ⟨edges, hok, hperm⟩ := ih fun e' he' => h e' (List.mem_append_left _ he')
    have he : e.Resolves n := h e (List.mem_append_right _ List.mem_cons_self)
    obtain ⟨edges', hok', hperm'⟩ := Index.lookup_insert e.kept he hok
    refine ⟨edges', by rw [Index.addAll_append, hok'], ?_⟩
    rw [hits_append, hits_singleton]
    exact hperm'.trans (hperm.append_right _)

/-- A look-up fails only where a path left by a registration does. -/
lemma resolves_of_lookup_addAll {es : List (Entry τ)} {n : Node} {edges : List (List τ × Node)}
    (hok : (Index.addAll es).lookup n = .ok edges) : ∀ e ∈ es, e.Resolves n := by
  induction es using List.reverseRecOn generalizing edges with
  | nil => exact nofun
  | append_singleton es e ih =>
    rw [Index.addAll_append] at hok
    obtain ⟨⟨before, hbefore⟩, hres⟩ := Index.resolves_of_lookup_insert hok
    intro e' he'
    rcases List.mem_append.1 he' with h | h
    · exact ih hbefore e' h
    · rw [List.mem_singleton.1 h]
      exact hres

/-- The tests of a chain are run one after the other, as they were registered. -/
lemma testsOf_contiguous {es : List (Entry τ)} {n m : Node} {edges : List (List τ × Node)}
    {kind : String} {steps : List Step} (hok : (Index.addAll es).lookup n = .ok edges)
    (ht : target n kind steps = some m) :
    (testsOf es kind steps).map (·, m) <:+: runs edges := by
  by_cases hne : testsOf es kind steps = []
  · rw [hne]
    exact List.nil_infix
  · rw [← testsAt_addAll] at hne ⊢
    obtain ⟨before, after, rfl⟩ := List.append_of_mem (Index.mem_lookup hok ht hne)
    exact ⟨runs before, runs after, by simp⟩

/-- Where all chains that hold at a node are the same, its tests are run in the order of their
registration. -/
lemma runs_eq_hits {es : List (Entry τ)} {n : Node} {edges : List (List τ × Node)}
    (hok : (Index.addAll es).lookup n = .ok edges)
    (hone : ∀ e ∈ es, ∀ e' ∈ es, (target n e.kind e.steps).isSome →
      (target n e'.kind e'.steps).isSome → e.kind = e'.kind ∧ e.steps = e'.steps) :
    runs edges = hits es n := by
  obtain ⟨edges', hok', hperm⟩ := lookup_addAll (resolves_of_lookup_addAll hok)
  obtain rfl : edges' = edges := Except.ok.inj (hok'.symm.trans hok)
  by_cases hnone : hits es n = []
  · rw [hnone] at hperm ⊢
    exact hperm.eq_nil
  · obtain ⟨⟨t, m⟩, htm⟩ := List.exists_mem_of_ne_nil _ hnone
    obtain ⟨e, he, hm⟩ := List.mem_filterMap.1 htm
    obtain ⟨m', hm', -⟩ := Option.map_eq_some_iff.1 hm
    -- every hit is one of the chain of `e`, and that chain stands together in the run
    have hchain : hits es n = (testsOf es e.kind e.steps).map (·, m') := by
      rw [hits, testsOf, List.map_map, ← List.filterMap_eq_map,
        List.filterMap_filter (l := (es.filter (·.isAccepted)))]
      refine List.filterMap_congr fun x hx => ?_
      have hmem := List.mem_of_mem_filter hx
      by_cases hc : x.kind = e.kind ∧ x.steps = e.steps
      · simp [hc, hm']
      · rw [if_neg (by simpa using hc), Option.map_eq_none_iff, ← Option.not_isSome_iff_eq_none]
        intro hx'
        exact hc (hone x hmem e (List.mem_of_mem_filter he) hx' (by rw [hm']; rfl))
    have hblock := testsOf_contiguous hok hm'
    rw [← hchain] at hblock
    exact (hblock.eq_of_length hperm.length_eq.symm).symm

/-- **A look-up runs exactly the tests whose chain holds at the node.** Entries are registered in
turn, and those with an empty path are refused and not counted. A look-up succeeds wherever none of
the paths left in the index fails, a refused entry leaving those before its empty one. It then
runs each accepted test whose chain holds, once, at the node the chain ends at, and the tests of
one chain in the order of their registration. -/
theorem lookup_runs_registrations (es : List (Entry τ)) (n : Node) :
    (∀ (i : Index τ), ∀ e ∈ es, (i.add e.test e.kind e.steps).2 =
      if ∀ s ∈ e.steps, s.path ≠ "" then .ok () else .error .emptyChildPath) ∧
    (Index.addAll es).testCount = (es.filter (·.isAccepted)).length ∧
    ((∃ edges, (Index.addAll es).lookup n = .ok edges) ↔ ∀ e ∈ es, e.Resolves n) ∧
    ∀ edges, (Index.addAll es).lookup n = .ok edges → (runs edges).Perm (hits es n) ∧
      ∀ kind steps m, target n kind steps = some m →
        (testsOf es kind steps).map (·, m) <:+: runs edges := by
  refine ⟨fun i e _ => ?_, testCount_addAll es, ⟨?_, fun h => ?_⟩, fun edges hok => ⟨?_, ?_⟩⟩
  · rw [Index.add_eq]
    simp [Entry.isAccepted]
  · rintro ⟨edges, hok⟩
    exact resolves_of_lookup_addAll hok
  · obtain ⟨edges, hok, -⟩ := lookup_addAll h
    exact ⟨edges, hok⟩
  · obtain ⟨edges', hok', hperm⟩ := lookup_addAll (resolves_of_lookup_addAll hok)
    obtain rfl : edges' = edges := Except.ok.inj (hok'.symm.trans hok)
    exact hperm
  · exact fun kind steps m ht => testsOf_contiguous hok ht

/-- `a.b = a`, as far as the index looks at it. -/
def assignmentNode : Node :=
  .mk "assignment_expression" 0 7 none true
    [.mk "member_expression" 0 3 (some "left") true [], .mk "=" 4 5 none false [],
      .mk "identifier" 6 7 (some "right") true []]

/-- Two entries share a chain, one reaches the same node by its number, and one is refused after a
step of its own. -/
def assignmentEntries : List (Entry String) :=
  [⟨"first", "assignment_expression", [⟨"left", "member_expression"⟩]⟩,
   ⟨"refused", "assignment_expression", [⟨"right", "identifier"⟩, ⟨"", "identifier"⟩]⟩,
   ⟨"other", "assignment_expression", [⟨"left", "identifier"⟩]⟩,
   ⟨"numbered", "assignment_expression", [⟨"0", "member_expression"⟩]⟩,
   ⟨"whole", "assignment_expression", []⟩,
   ⟨"second", "assignment_expression", [⟨"left", "member_expression"⟩]⟩]

theorem lookup_runs_assignmentEntries :
    (∀ e ∈ assignmentEntries, e.Resolves assignmentNode) ∧
    (Index.addAll assignmentEntries).testCount = 5 ∧
    ∃ edges, (Index.addAll assignmentEntries).lookup assignmentNode = .ok edges ∧
      ((runs edges).map Prod.fst).Perm ["first", "numbered", "whole", "second"] ∧
      ["first", "second"] <:+: (runs edges).map Prod.fst := by
  have h : ∀ e ∈ assignmentEntries, e.Resolves assignmentNode := by
    intro e he
    fin_cases he
    pick_goal 5
    · exact trivial
    all_goals exact fun _ => ⟨_, rfl, fun c _ => trivial⟩
  obtain ⟨-, hcount, hiff, hruns⟩ := lookup_runs_registrations assignmentEntries assignmentNode
  obtain ⟨edges, hok⟩ := hiff.2 h
  obtain ⟨hperm, horder⟩ := hruns edges hok
  refine ⟨h, hcount, edges, hok, hperm.map Prod.fst, ?_⟩
  exact (horder "assignment_expression" [⟨"left", "member_expression"⟩] _ rfl).map Prod.fst

end ComponentLint.Conformance
