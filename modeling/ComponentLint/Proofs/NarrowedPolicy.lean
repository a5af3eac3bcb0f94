import ComponentLint.Proofs.PlainFindings

/-!
Narrowing a policy.

A policy is narrowed by deleting requirements and by letting those that stay apply to fewer paths.
What a requirement finds at a node does not depend on its filters, and nothing it finds depends on
the other requirements; so the findings of the narrowed policy are among those of the policy, in
the same order.
-/

namespace ComponentLint

/-! ### Filters -/

/-- The literals and expressions of one filter are among those of another. -/
def PathFilter.Within (f g : PathFilter) : Prop := f.values ⊆ g.values ∧ f.patterns ⊆ g.patterns

lemma PathFilter.matchesPrefix_mono {values values' : List String} (h : values ⊆ values')
    {path : List Char} (hm : matchesPrefix values path) : matchesPrefix values' path := by
  fun_induction matchesPrefix values path with
  | case1 => cases hm
  | case2 c cs ih =>
    rw [Bool.or_eq_true, List.contains_iff_mem] at hm
    rw [matchesPrefix, Bool.or_eq_true, List.contains_iff_mem]
    rcases hm with hhere | hrest
    · exact Or.inl (h hhere)
    · exact Or.inr (ih hrest)

/-- A filter with more entries holds on more paths. -/
lemma PathFilter.Within.holds {f g : PathFilter} (h : f.Within g) {path : String}
    (hf : f.holds path) : g.holds path := by
  rw [PathFilter.holds, Bool.or_eq_true] at hf ⊢
  refine hf.imp (matchesPrefix_mono h.1) fun hp => ?_
  obtain ⟨p, hp, hsearch⟩ := List.any_eq_true.1 hp
  exact List.any_eq_true.2 ⟨p, h.2 hp, hsearch⟩

/-! ### Requirements -/

/-- The same ban on fewer paths. A requirement that is limited to paths stays so, with some of its
entries gone; one that exempts paths exempts those and maybe more. -/
structure Requirement.Narrows (r' r : Requirement) : Prop where
  kind : r'.kind = r.kind
  value : r'.value = r.value
  errorMessage : r'.errorMessage = r.errorMessage
  only : Option.Rel PathFilter.Within r'.only r.only
  exempt : ∀ f ∈ r.exempt, ∃ f' ∈ r'.exempt, f.Within f'

/-- Some requirements are gone and the others narrowed. -/
def Policy.Narrows (p' p : Policy) : Prop :=
  List.SublistForall₂ Requirement.Narrows p'.requirements p.requirements

lemma Requirement.appliesTo_iff {r : Requirement} {path : String} : r.appliesTo path ↔
    (∀ f ∈ r.only, f.holds path) ∧ ∀ f ∈ r.exempt, ¬f.holds path := by
  rw [Requirement.appliesTo]
  cases r.only <;> cases r.exempt <;> simp

lemma Requirement.Narrows.appliesTo {r' r : Requirement} (h : r'.Narrows r) {path : String}
    (ha : r'.appliesTo path) : r.appliesTo path := by
  rw [Requirement.appliesTo_iff] at ha ⊢
  obtain ⟨honly, hexempt⟩ := ha
  constructor
  · intro f hf
    have hrel := h.only
    rw [Option.mem_def.1 hf] at hrel
    cases hr' : r'.only with
    | none => rw [hr'] at hrel; cases hrel
    | some f' =>
      rw [hr'] at hrel
      cases hrel with
      | some hwithin => exact hwithin.holds (honly f' hr')
  · intro f hf hholds
    obtain ⟨f', hf', hwithin⟩ := h.exempt f hf
    exact hexempt f' hf' (hwithin.holds hholds)

lemma narrows_filter {rs' rs : List Requirement} (path : String)
    (h : List.SublistForall₂ Requirement.Narrows rs' rs) :
    List.SublistForall₂ Requirement.Narrows (rs'.filter (·.appliesTo path))
      (rs.filter (·.appliesTo path)) := by
  induction h with
  | nil => exact .nil
  | @cons r' r rs' rs hr _ ih =>
    by_cases ha' : r'.appliesTo path
    · rw [List.filter_cons, List.filter_cons, if_pos ha', if_pos (hr.appliesTo ha')]
      exact .cons hr ih
    · rw [List.filter_cons, List.filter_cons, if_neg ha']
      split_ifs
      · exact .cons_right ih
      · exact ih
  | cons_right _ ih =>
    rw [List.filter_cons]
    split_ifs
    · exact .cons_right ih
    · exact ih

/-- The requirements that apply to a path after narrowing are some of those before, narrowed. -/
lemma Policy.Narrows.applicableTo {p' p : Policy} (h : p'.Narrows p) (path : String) :
    List.SublistForall₂ Requirement.Narrows (p'.applicableTo path) (p.applicableTo path) :=
  narrows_filter path h

end ComponentLint

namespace ComponentLint.Conformance

open Script (Node)

/-! ### Findings -/

/-- What a requirement finds at a node does not depend on the paths it applies to. -/
lemma findingAt_of_narrows {r' r : Requirement} (h : r'.Narrows r) (s : Script) (n : Node)
    (parent : Option Node) : findingAt s n parent r' = findingAt s n parent r := by
  obtain ⟨kind, value, message, only, exempt, js, id⟩ := r
  obtain ⟨hkind, hvalue, hmessage, -, -⟩ := h
  obtain ⟨kind', value', message', only', exempt', js', id'⟩ := r'
  subst hkind hvalue hmessage
  rfl

lemma filterMap_findingAt_sublist {rs' rs : List Requirement}
    (h : List.SublistForall₂ Requirement.Narrows rs' rs) (s : Script) (n : Node)
    (parent : Option Node) :
    (rs'.filterMap (findingAt s n parent)).Sublist (rs.filterMap (findingAt s n parent)) := by
  obtain ⟨kept, hkept, hsub⟩ := List.sublistForall₂_iff.1 h
  have heq : rs'.filterMap (findingAt s n parent) = kept.filterMap (findingAt s n parent) := by
    clear h hsub
    induction hkept with
    | nil => rfl
    | cons hr _ ih => rw [List.filterMap_cons, List.filterMap_cons, findingAt_of_narrows hr, ih]
  rw [heq]
  exact hsub.filterMap _

section

variable [Script.Language]

/-- Fewer requirements find less at each node, and as much at nodes of an unknown kind. -/
lemma findings_sublist {rs' rs : List Requirement}
    (h : List.SublistForall₂ Requirement.Narrows rs' rs) (s : Script) :
    (findings rs' s).Sublist (findings rs s) := by
  refine List.Sublist.flatMap_right _ fun e _ => ?_
  unfold findingsAt
  split_ifs
  · exact filterMap_findingAt_sublist h s e.1 e.2
  · exact List.Sublist.refl _

lemma pathFindings_sublist {p' p : Policy} (h : p'.Narrows p) (path : String)
    (scripts : List Script) :
    (pathFindings p' path scripts).Sublist (pathFindings p path scripts) := by
  have happlicable := h.applicableTo path
  rw [pathFindings, pathFindings]
  by_cases hnone : p'.applicableTo path = []
  · rw [hnone]
    exact List.nil_sublist _
  · have hsome : p.applicableTo path ≠ [] := by
      intro hnil
      obtain ⟨kept, hkept, hsub⟩ := List.sublistForall₂_iff.1 happlicable
      rw [hnil, List.sublist_nil] at hsub
      subst hsub
      exact hnone (List.forall₂_nil_right_iff.1 hkept)
    rw [if_neg (by simpa using hnone), if_neg (by simpa using hsome)]
    exact List.Sublist.flatMap_right _ fun s _ => (findings_sublist happlicable s).map _

/-- **Narrowing a policy never adds or reorders findings.** -/
theorem lint_sublist_of_narrows (p' p : Policy) (hnarrows : p'.Narrows p)
    (scripts : List (String × List Script))
    (hb : ∀ e ∈ scripts, ∀ s ∈ e.2, s.OnBoundaries s.root) :
    ∃ ds' ds, lint p' scripts = .ok ds' ∧ lint p scripts = .ok ds ∧ ds'.Sublist ds := by
  induction scripts with
  | nil => exact ⟨[], [], rfl, rfl, List.Sublist.refl _⟩
  | cons e scripts ih =>
    obtain ⟨ds', ds, hds', hds, hsub⟩ := ih fun e' he' => hb e' (List.mem_cons_of_mem _ he')
    have hscripts := hb e List.mem_cons_self
    exact ⟨_, _, lint_cons hscripts hds', lint_cons hscripts hds,
      (pathFindings_sublist hnarrows e.1 e.2).append hsub⟩

end

/-- One requirement is limited to two directories, one has no filter, and two exempt a directory. -/
def namesPolicy : Policy where
  requirements :=
    [{ kind := .bannedName, value := ["eval"], only := some ⟨["src", "lib"], []⟩ },
     { kind := .bannedName, value := ["eval"], errorMessage := some "no eval" },
     { kind := .bannedName, value := ["b"], exempt := some ⟨["lib"], []⟩ },
     { kind := .bannedProperty, value := ["b"], exempt := some ⟨["lib"], []⟩ }]

/-- The same with an entry less, an exemption, a requirement less and an entry more. -/
def narrowedNamesPolicy : Policy where
  requirements :=
    [{ kind := .bannedName, value := ["eval"], only := some ⟨["lib"], []⟩ },
     { kind := .bannedName, value := ["eval"], errorMessage := some "no eval",
       exempt := some ⟨["lib"], []⟩ },
     { kind := .bannedProperty, value := ["b"], exempt := some ⟨["lib", "src/a.js"], []⟩ }]

theorem lint_narrowedNamesPolicy : letI := assignmentGrammar
    narrowedNamesPolicy.Narrows namesPolicy ∧
    (∀ e ∈ [("src/a.js", [assignmentScript]), ("lib/b.js", [assignmentScript])],
      ∀ s ∈ e.2, s.OnBoundaries s.root) ∧
    ∃ ds' ds,
      lint narrowedNamesPolicy
        [("src/a.js", [assignmentScript]), ("lib/b.js", [assignmentScript])] = .ok ds' ∧
      lint namesPolicy
        [("src/a.js", [assignmentScript]), ("lib/b.js", [assignmentScript])] = .ok ds ∧
      ds'.Sublist ds ∧ ds'.length = 4 ∧ ds.length = 7 := by
  let _ := assignmentGrammar
  have hnarrows : narrowedNamesPolicy.Narrows namesPolicy := by
    refine .cons ⟨rfl, rfl, rfl, .some ⟨by decide, nofun⟩, nofun⟩
      (.cons ⟨rfl, rfl, rfl, .none, nofun⟩
        (.cons_right (.cons ⟨rfl, rfl, rfl, .none, ?_⟩ .nil)))
    rintro _ ⟨⟩
    exact ⟨_, rfl, by decide, nofun⟩
  have hb : ∀ e ∈ [("src/a.js", [assignmentScript]), ("lib/b.js", [assignmentScript])],
      ∀ s ∈ e.2, s.OnBoundaries s.root := by decide
  obtain ⟨ds', ds, hds', hds, hsub⟩ := lint_sublist_of_narrows _ _ hnarrows _ hb
  have hcount : ((lint narrowedNamesPolicy [("src/a.js", [assignmentScript]),
        ("lib/b.js", [assignmentScript])]).toOption.map List.length) = some 4 ∧
      ((lint namesPolicy [("src/a.js", [assignmentScript]),
        ("lib/b.js", [assignmentScript])]).toOption.map List.length) = some 7 := by
    decide +kernel
  rw [hds', hds] at hcount
  exact ⟨hnarrows, hb, ds', ds, hds', hds, hsub, Option.some.inj hcount.1,
    Option.some.inj hcount.2⟩

end ComponentLint.Conformance
