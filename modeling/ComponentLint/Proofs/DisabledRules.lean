import ComponentLint.Command.Lint
import ComponentLint.Proofs.IndexLookup
import ComponentLint.Proofs.NodeText
import ComponentLint.Proofs.PathPrefixes

/-!
Disabling rules.

Rules do not see each other: each looks at the model and reports under its own id, and the policy
is checked apart from them. So a run with some rules disabled gives the findings of the full run
without theirs, in the same order. All findings block success, so a command that gets to print its
report ends with status 1 if there are any; without any it ends with status 0, unless a line it
prints cannot be rendered.
-/

namespace ComponentLint

open Conformance (bind_eq_ok)

/-! ### What a rule reports -/

/-- A rule gives a list of findings for a model, all under its own id. -/
def Rule.Tagged (rule : Rule) (m : Model) (path : String) : Prop :=
  ∃ found, rule.check m path = .ok found ∧ ∀ d ∈ found, d.ruleId = rule.id

namespace Rule

/-- A finding under an id that blocks success. -/
def Marked (id : String) (d : Diagnostic) : Prop := d.ruleId = id ∧ d.fatal = true

lemma marked_atPlace (id : String) (p : Markup.Place) (message : String) :
    Marked id (atPlace id p message) := ⟨rfl, rfl⟩

lemma marked_atPosition (id : String) (position : Option Position) (c : Component)
    (message : String) : Marked id (atPosition id position c message) := by
  unfold atPosition
  split
  · exact marked_atPlace ..
  · exact ⟨rfl, rfl⟩

lemma BoundVariables.marked {m : Model} {d : Diagnostic} (h : d ∈ check m) : Marked id d := by
  obtain ⟨c, -, hd⟩ := List.mem_flatMap.1 h
  simp only [checkComponent, List.mem_append, List.mem_flatMap, List.mem_map] at hd
  rcases hd with ⟨o, -, message, -, rfl⟩ | ⟨o, -, message, -, rfl⟩
  · exact marked_atPlace ..
  · exact marked_atPosition ..

lemma UndefinedElements.marked {m : Model} {d : Diagnostic} (h : d ∈ check m) : Marked id d := by
  obtain ⟨p, -, hd⟩ := List.mem_filterMap.1 h
  simp only [Option.ite_none_right_eq_some, Option.some.injEq] at hd
  obtain ⟨-, rfl⟩ := hd
  exact marked_atPlace ..

lemma NativeAttributes.marked {m : Model} {d : Diagnostic} (h : d ∈ check m) : Marked id d := by
  obtain ⟨c, -, hd⟩ := List.mem_flatMap.1 h
  obtain ⟨o, -, rfl⟩ := List.mem_map.1 hd
  exact marked_atPlace ..

lemma Observers.marked {m : Model} {d : Diagnostic} (h : d ∈ check m) : Marked id d := by
  obtain ⟨c, -, hd⟩ := List.mem_flatMap.1 h
  obtain ⟨p, -, hd⟩ := List.mem_filterMap.1 hd
  rw [checkProperty] at hd
  split at hd
  · cases hd
  · split_ifs at hd
    split at hd
    · cases hd
      exact marked_atPosition ..
    · split_ifs at hd
      cases hd
      exact marked_atPosition ..

lemma DomModules.marked {m : Model} {d : Diagnostic} (h : d ∈ check m) : Marked id d := by
  obtain ⟨c, -, hd⟩ := List.mem_flatMap.1 h
  rw [checkComponent] at hd
  split_ifs at hd
  · cases hd
  · split at hd
    · cases hd
    · split at hd
      · cases hd
      · split_ifs at hd
        · cases hd
        · obtain rfl := List.mem_singleton.1 hd
          exact marked_atPlace ..
    · obtain ⟨p, -, rfl⟩ := List.mem_map.1 hd
      exact marked_atPlace ..

lemma UnbalancedDelimiters.marked {m : Model} {d : Diagnostic} (h : d ∈ check m) :
    Marked id d := by
  obtain ⟨c, -, hd⟩ := List.mem_flatMap.1 h
  obtain ⟨o, -, rfl⟩ := List.mem_map.1 hd
  exact marked_atPlace ..

end Rule

/-- Every rule of the program gives a list for every model, under its own id. -/
lemma Registry.marked_of_mem_builtin {rule : Rule} (h : rule ∈ builtin.rules) (m : Model)
    (path : String) :
    ∃ found, rule.check m path = .ok found ∧ ∀ d ∈ found, Rule.Marked rule.id d := by
  simp only [builtin, List.mem_cons, List.not_mem_nil, or_false] at h
  rcases h with rfl | rfl | rfl | rfl | rfl | rfl
  · exact ⟨_, rfl, fun d hd => Rule.BoundVariables.marked hd⟩
  · exact ⟨_, rfl, fun d hd => Rule.UndefinedElements.marked hd⟩
  · exact ⟨_, rfl, fun d hd => Rule.NativeAttributes.marked hd⟩
  · exact ⟨_, rfl, fun d hd => Rule.Observers.marked hd⟩
  · exact ⟨_, rfl, fun d hd => Rule.DomModules.marked hd⟩
  · exact ⟨_, rfl, fun d hd => Rule.UnbalancedDelimiters.marked hd⟩

/-! ### What a registry reports -/

namespace Rule

lemma runAll_mem {m : Model} {path : String} {rules : List Rule} {found : List Diagnostic}
    (h : runAll m path rules = .ok found) {d : Diagnostic} (hd : d ∈ found) :
    ∃ rule ∈ rules, ∃ ds, rule.check m path = .ok ds ∧ d ∈ ds := by
  induction rules generalizing found with
  | nil => cases h; cases hd
  | cons rule rules ih =>
    obtain ⟨here, hhere, h⟩ := bind_eq_ok.1 h
    obtain ⟨rest, hrest, h⟩ := bind_eq_ok.1 h
    cases h
    rcases List.mem_append.1 hd with hd | hd
    · exact ⟨rule, List.mem_cons_self, here, hhere, hd⟩
    · obtain ⟨rule', hmem, hds⟩ := ih hrest hd
      exact ⟨rule', List.mem_cons_of_mem _ hmem, hds⟩

/-- The findings of the rules that are left are those findings of all rules that are not under an
id left out. -/
lemma runAll_filter {m : Model} {path : String} {rules : List Rule}
    (h : ∀ rule ∈ rules, rule.Tagged m path) (disabled : List String) :
    ∃ found, runAll m path rules = .ok found ∧
      runAll m path (rules.filter fun rule => !disabled.contains rule.id) =
        .ok (found.filter fun d => d.ruleId ∉ disabled) := by
  induction rules with
  | nil => exact ⟨[], rfl, rfl⟩
  | cons rule rules ih =>
    obtain ⟨⟨here, hhere, hids⟩, htail⟩ := List.forall_mem_cons.1 h
    obtain ⟨rest, hrest, hfiltered⟩ := ih htail
    refine ⟨here ++ rest, bind_eq_ok.2 ⟨here, hhere, bind_eq_ok.2 ⟨rest, hrest, rfl⟩⟩, ?_⟩
    rw [List.filter_append]
    by_cases hdisabled : rule.id ∈ disabled
    · have hnone : here.filter (fun d => d.ruleId ∉ disabled) = [] :=
        List.filter_eq_nil_iff.2 fun d hd => by simp [hids d hd, hdisabled]
      rw [List.filter_cons_of_neg (by simpa using hdisabled), hnone, List.nil_append]
      exact hfiltered
    · have hall : here.filter (fun d => d.ruleId ∉ disabled) = here :=
        List.filter_eq_self.2 fun d hd => by simp [hids d hd, hdisabled]
      rw [List.filter_cons_of_pos (by simpa using hdisabled), hall]
      exact bind_eq_ok.2 ⟨here, hhere, bind_eq_ok.2 ⟨_, hfiltered, rfl⟩⟩

end Rule

namespace Registry

/-- The registry after some calls to `register`; a call that is refused leaves it as it is. -/
def ofCalls (calls : List Rule) : Registry :=
  calls.foldl (fun r rule => ((r.register rule).toOption).getD r) {}

lemma run_filter {r : Registry} {m : Model} {path : String}
    (h : ∀ rule ∈ r.rules, rule.Tagged m path) (disabled : List String) :
    ∃ found, r.run m path [] = .ok found ∧
      r.run m path disabled = .ok (found.filter fun d => d.ruleId ∉ disabled) := by
  obtain ⟨found, hall, hfiltered⟩ := Rule.runAll_filter h disabled
  refine ⟨found, ?_, hfiltered⟩
  have hnone : r.without [] = r.rules := List.filter_eq_self.2 fun rule _ => rfl
  rw [run, hnone]
  exact hall

end Registry

/-! ### What a policy reports -/

namespace Conformance

lemma ruleId_not_mem_builtin : ruleId ∉ Registry.builtin.ids := by decide

variable [Script.Language]

lemma marked_lintScripts {i : Index Test} {path : String} {scripts : List Script}
    {found : List Diagnostic} (h : lintScripts i path scripts = .ok found) :
    ∀ d ∈ found, Rule.Marked ruleId d := by
  induction scripts generalizing found with
  | nil => cases h; simp
  | cons s scripts ih =>
    obtain ⟨here, -, h⟩ := bind_eq_ok.1 h
    obtain ⟨rest, hrest, h⟩ := bind_eq_ok.1 h
    cases h
    refine List.forall_mem_append.2 ⟨fun d hd => ?_, ih hrest⟩
    obtain ⟨v, -, rfl⟩ := List.mem_map.1 hd
    exact ⟨rfl, rfl⟩

/-- The findings of a policy are under its id and block success. -/
lemma marked_lint {policy : Policy} {scripts : List (String × List Script)}
    {found : List Diagnostic} (h : lint policy scripts = .ok found) :
    ∀ d ∈ found, Rule.Marked ruleId d := by
  induction scripts generalizing found with
  | nil => cases h; simp
  | cons e scripts ih =>
    rw [lint] at h
    split_ifs at h
    · obtain ⟨here, hhere, h⟩ := bind_eq_ok.1 h
      obtain ⟨rest, hrest, h⟩ := bind_eq_ok.1 h
      cases hhere
      cases h
      exact ih hrest
    · obtain ⟨here, hhere, h⟩ := bind_eq_ok.1 h
      obtain ⟨rest, hrest, h⟩ := bind_eq_ok.1 h
      cases h
      exact List.forall_mem_append.2 ⟨marked_lintScripts hhere, ih hrest⟩

end Conformance

/-! ### Two runs side by side -/

/-- The findings that stay when rules are disabled; those of a policy always do. -/
def kept (disabled : List String) (found : List Diagnostic) : List Diagnostic :=
  found.filter fun d => d.ruleId ∉ disabled ∨ d.ruleId = Conformance.ruleId

lemma kept_append (disabled : List String) (ds es : List Diagnostic) :
    kept disabled (ds ++ es) = kept disabled ds ++ kept disabled es := List.filter_append ..

lemma kept_of_marked {disabled : List String} {ds : List Diagnostic}
    (h : ∀ d ∈ ds, Rule.Marked Conformance.ruleId d) : kept disabled ds = ds :=
  List.filter_eq_self.2 fun d hd => by simp [(h d hd).1]

/-- A finding of a rule of the program or of a policy, which blocks success. -/
def Known (d : Diagnostic) : Prop :=
  d.fatal = true ∧ (d.ruleId ∈ Registry.builtin.ids ∨ d.ruleId = Conformance.ruleId)

/-- The rules of the program always give a list, and disabling some of them keeps the rest. -/
lemma Registry.builtin_run (m : Model) (path : String) (disabled : List String) :
    ∃ found, builtin.run m path [] = .ok found ∧
      builtin.run m path disabled = .ok (kept disabled found) ∧
      ∀ d ∈ found, d.fatal = true ∧ d.ruleId ∈ builtin.ids := by
  have htagged : ∀ rule ∈ builtin.rules, rule.Tagged m path := by
    intro rule hrule
    obtain ⟨found, hfound, hmarked⟩ := marked_of_mem_builtin hrule m path
    exact ⟨found, hfound, fun d hd => (hmarked d hd).1⟩
  obtain ⟨found, hall, hfiltered⟩ := run_filter htagged disabled
  have hknown : ∀ d ∈ found, d.fatal = true ∧ d.ruleId ∈ builtin.ids := by
    intro d hd
    obtain ⟨rule, hrule, ds, hds, hd⟩ := Rule.runAll_mem hall hd
    have hrule : rule ∈ builtin.rules := List.mem_of_mem_filter hrule
    obtain ⟨ds', hds', hmarked⟩ := marked_of_mem_builtin hrule m path
    rw [hds] at hds'
    cases hds'
    obtain ⟨hid, hfatal⟩ := hmarked d hd
    exact ⟨hfatal, hid ▸ List.mem_map_of_mem hrule⟩
  refine ⟨found, hall, ?_, hknown⟩
  rw [hfiltered, kept]
  congr 1
  refine List.filter_congr fun d hd => ?_
  have hne : d.ruleId ≠ Conformance.ruleId := fun h =>
    Conformance.ruleId_not_mem_builtin (h ▸ (hknown d hd).2)
  simp [hne]

namespace Task

variable {policy : Option Policy} {follow : Bool} {w : Workspace}

/-- A run of all rules of the program. -/
def full (policy : Option Policy) (follow : Bool) : Task :=
  { policy := policy, followImports := follow }

/-- What the full run and one with rules disabled have in common at any time. -/
structure Alike (disabled : List String) (p p' : Progress) : Prop where
  checked : p'.checked = p.checked
  found : p'.report.diagnostics = kept disabled p.report.diagnostics
  known : ∀ d ∈ p.report.diagnostics, Known d

/-- Adding findings to both reports keeps what they have in common. -/
lemma Alike.extend {disabled : List String} {p p' : Progress} (h : Alike disabled p p')
    {found : List Diagnostic} (hknown : ∀ d ∈ found, Known d) (warned warned' : List Warning)
    (checked : List String) :
    Alike disabled
      { report := p.report.extend found, warnings := warned, checked := p.checked ++ checked }
      { report := p'.report.extend (kept disabled found), warnings := warned'
        checked := p'.checked ++ checked } where
  checked := congrArg (· ++ checked) h.checked
  found := by
    rw [Report.extend, Report.extend, kept_append]
    exact congrArg (· ++ kept disabled found) h.found
  known := List.forall_mem_append.2 ⟨h.known, hknown⟩

variable [Script.Language]

lemma examine_disabled (disabled : List String) {path : String}
    {scripts : List (String × List Script)} {found : List Diagnostic} {warned : List Warning}
    (h : (full policy follow).examine w path = .ok (scripts, found, warned)) :
    ({ full policy follow with disabled := disabled }).examine w path =
        .ok (scripts, kept disabled found, warned) ∧ ∀ d ∈ found, Known d := by
  rw [examine] at h ⊢
  split_ifs at h ⊢ with hsuffix
  · obtain ⟨text, htext, h⟩ := bind_eq_ok.1 h
    cases h
    exact ⟨bind_eq_ok.2 ⟨text, htext, rfl⟩, by simp⟩
  · obtain ⟨a, ha, h⟩ := bind_eq_ok.1 h
    obtain ⟨all, hall, h⟩ := bind_eq_ok.1 h
    cases h
    obtain ⟨all', hall', hkept, hknown⟩ := Registry.builtin_run a.model path disabled
    rw [full] at hall
    rw [hall] at hall'
    cases hall'
    exact ⟨bind_eq_ok.2 ⟨a, ha, bind_eq_ok.2 ⟨_, hkept, rfl⟩⟩,
      fun d hd => ⟨(hknown d hd).1, Or.inl (hknown d hd).2⟩⟩

lemma step_disabled {disabled : List String} {p p' q : Progress} (halike : Alike disabled p p')
    {path : String} (h : (full policy follow).step w p path = .ok q) :
    ∃ q', ({ full policy follow with disabled := disabled }).step w p' path = .ok q' ∧
      Alike disabled q q' := by
  obtain ⟨⟨scripts, found, warned⟩, hexamine, h⟩ := bind_eq_ok.1 h
  obtain ⟨hexamine', hknown⟩ := examine_disabled disabled hexamine
  cases policy with
  | none =>
    cases h
    refine ⟨_, bind_eq_ok.2 ⟨_, hexamine', rfl⟩, ?_⟩
    simpa using halike.extend hknown (p.warnings ++ warned) (p'.warnings ++ warned) []
  | some policy =>
    obtain ⟨violations, hviolations, h⟩ := bind_eq_ok.1 h
    cases h
    have hmarked := Conformance.marked_lint hviolations
    have hboth := (halike.extend hknown p.warnings p'.warnings []).extend
      (fun d hd => ⟨(hmarked d hd).2, Or.inr (hmarked d hd).1⟩)
    rw [kept_of_marked hmarked] at hboth
    rw [← halike.checked] at hviolations
    refine ⟨_, bind_eq_ok.2 ⟨_, hexamine', bind_eq_ok.2 ⟨violations, hviolations, rfl⟩⟩, ?_⟩
    simpa [halike.checked] using hboth _ _ _

lemma foldlM_disabled {disabled : List String} {inputs : List String} {p p' q : Progress}
    (halike : Alike disabled p p')
    (h : inputs.foldlM ((full policy follow).step w) p = .ok q) :
    ∃ q', inputs.foldlM (({ full policy follow with disabled := disabled }).step w) p' = .ok q' ∧
      Alike disabled q q' := by
  induction inputs generalizing p p' with
  | nil => cases h; exact ⟨p', rfl, halike⟩
  | cons path inputs ih =>
    obtain ⟨r, hr, h⟩ := bind_eq_ok.1 h
    obtain ⟨r', hr', halike'⟩ := step_disabled halike hr
    obtain ⟨q', hq', hfinal⟩ := ih halike' h
    exact ⟨q', bind_eq_ok.2 ⟨r', hr', hq'⟩, hfinal⟩

/-- A run with rules disabled succeeds where the full run does, and keeps the other findings. -/
lemma run_disabled {inputs : List String} {p : Progress}
    (h : (full policy follow).run w inputs = .ok p) (disabled : List String) :
    ∃ p', ({ full policy follow with disabled := disabled }).run w inputs = .ok p' ∧
      Alike disabled p p' :=
  foldlM_disabled ⟨rfl, rfl, by simp⟩ h

end Task

/-! ### The status of a command -/

namespace Command

@[simp] lemma exitCode_after (output : String) (o : Outcome) :
    (o.after output).exitCode = o.exitCode := rfl

lemma exitCode_emit_of_one (printed : Except Fault String) {next : Outcome}
    (hnext : next.exitCode = 1) : (emit printed next).exitCode = 1 := by
  cases printed with
  | ok s => exact hnext
  | error f => rfl

variable [Console]

lemma exitCode_print (text : String) (next : Outcome) :
    (print text next).exitCode = 1 ↔ ¬Console.Renders text ∨ next.exitCode = 1 := by
  rw [print, Console.Renders]
  cases Console.print text <;> simp [emit, Outcome.ofFault]

lemma exitCode_printUnknown (disabled : List String) (next : Outcome) :
    (printUnknown disabled next).exitCode = 1 ↔
      (unknownIds disabled ≠ [] ∧ ¬Console.Renders (unknownLine disabled)) ∨
        next.exitCode = 1 := by
  rw [printUnknown]
  by_cases h : unknownIds disabled = []
  · simp [h]
  · rw [if_neg (by simpa using h), exitCode_print]
    simp [h]

lemma exitCode_printText_clean {files : List String} {r : Report} (h : r.diagnostics = [])
    (next : Outcome) : (printText files r next).exitCode = 1 ↔
      ¬Console.Renders (cleanLine files) ∨ next.exitCode = 1 := by
  have hclean : r.isClean = true := by rw [Report.isClean, h]; rfl
  unfold printText
  rw [if_pos hclean, exitCode_after, exitCode_print, exitCode_after]

lemma exitCode_printText_of_findings {files : List String} {r : Report} (h : r.diagnostics ≠ [])
    {next : Outcome} (hnext : next.exitCode = 1) : (printText files r next).exitCode = 1 := by
  have hclean : ¬r.isClean = true := by simpa [Report.isClean] using h
  unfold printText
  rw [if_neg hclean, exitCode_after, exitCode_print, exitCode_after]
  exact Or.inr (exitCode_emit_of_one _ hnext)

lemma exitCode_conclude (a : Arguments) {r : Report}
    (hfatal : ∀ d ∈ r.diagnostics, d.fatal = true) :
    (conclude a r).exitCode = 1 ↔ r.diagnostics ≠ [] ∨
      (a.format ≠ "json" ∧ ¬Console.Renders (cleanLine a.files)) := by
  rw [conclude]
  by_cases hnone : r.diagnostics = []
  · have hstatus : r.hasFatal = false := by simp [Report.hasFatal, hnone]
    by_cases hjson : a.format = "json"
    · simp [hjson, hnone, hstatus]
    · rw [if_neg hjson, exitCode_printText_clean hnone]
      simp [hjson, hnone, hstatus]
  · have hstatus : r.hasFatal = true := by
      obtain ⟨d, hd⟩ := List.exists_mem_of_ne_nil _ hnone
      exact List.any_eq_true.2 ⟨d, hd, hfatal d hd⟩
    simp only [hnone, ne_eq, not_false_eq_true, true_or, iff_true]
    split_ifs
    · rfl
    · exact exitCode_printText_of_findings hnone rfl

variable [DataFormats] [Pattern.Engine] [Script.Language] {σ : Type} [Log.Library σ]

/-- A command that gets as far as checking its files: what is to be done, and the tree of files. -/
def Checks (env : Environment) (l : Log σ) (a : Arguments) (t : Task) (w : Workspace) : Prop :=
  a.format ∈ outputFormats ∧
    ∃ s policy, prepare env l a = .ok (w, s, policy) ∧ t = taskOf a s policy

lemma lint_eq {env : Environment} {l : Log σ} {a : Arguments} {t : Task} {w : Workspace}
    (h : Checks env l a t w) {progress : Progress} (hrun : t.run w a.files = .ok progress) :
    lint env l a = printUnknown t.disabled (conclude a progress.report) := by
  obtain ⟨hformat, s, policy, hprepare, rfl⟩ := h
  have hguard : ¬(!outputFormats.contains a.format) = true := by simpa using hformat
  rw [lint, if_neg hguard, hprepare]
  simp only [hrun]

end Command

section

variable [Script.Language]

/-- **Disabling rules keeps the other findings.** Where the full run succeeds, so does the run with
any rules disabled, and it gives the findings of the others and of the policy, in their order. All
findings block success and are under the id of a rule or of the policy, so a command that checks
these files ends with status 1 exactly if findings are left, or if the console refuses to print the
line of a report without findings or the one about unknown ids. The same holds of every registry
that calls can build, if its rules give lists under their own ids. -/
theorem disabling_keeps_other_findings (policy : Option Policy) (follow : Bool) (w : Workspace)
    (inputs : List String) (p : Progress)
    (hrun : (Task.full policy follow).run w inputs = .ok p) :
    (∀ disabled, ∃ p',
      ({ Task.full policy follow with disabled := disabled }).run w inputs = .ok p' ∧
      p'.report.diagnostics = p.report.diagnostics.filter fun d =>
        d.ruleId ∉ disabled ∨ d.ruleId = Conformance.ruleId) ∧
    (∀ d ∈ p.report.diagnostics, d.fatal = true ∧
      (d.ruleId ∈ Registry.builtin.ids ∨ d.ruleId = Conformance.ruleId)) ∧
    (∀ [Console] [DataFormats] [Pattern.Engine] {σ : Type} [Log.Library σ] (env : Environment)
      (l : Log σ) (a : Command.Arguments) (disabled : List String),
      Command.Checks env l a { Task.full policy follow with disabled := disabled } w →
      a.files = inputs →
      ((Command.lint env l a).exitCode = 1 ↔
        p.report.diagnostics.filter (fun d =>
          d.ruleId ∉ disabled ∨ d.ruleId = Conformance.ruleId) ≠ [] ∨
        (a.format ≠ "json" ∧ ¬Console.Renders (Command.cleanLine inputs)) ∨
        (Command.unknownIds disabled ≠ [] ∧
          ¬Console.Renders (Command.unknownLine disabled)))) ∧
    (∀ calls m path disabled, (∀ rule ∈ (Registry.ofCalls calls).rules, rule.Tagged m path) →
      ∃ found, (Registry.ofCalls calls).run m path [] = .ok found ∧
        (Registry.ofCalls calls).run m path disabled =
          .ok (found.filter fun d => d.ruleId ∉ disabled)) := by
  have hknown : ∀ d ∈ p.report.diagnostics, Known d :=
    (Task.run_disabled hrun []).choose_spec.2.known
  refine ⟨fun disabled => ?_, hknown, ?_,
    fun calls m path disabled h => Registry.run_filter h disabled⟩
  · obtain ⟨p', hp', halike⟩ := Task.run_disabled hrun disabled
    exact ⟨p', hp', halike.found⟩
  · intro _ _ _ σ _ env l a disabled hchecks hfiles
    obtain ⟨p', hp', halike⟩ := Task.run_disabled hrun disabled
    have hfatal : ∀ d ∈ p'.report.diagnostics, d.fatal = true := by
      rw [halike.found]
      exact fun d hd => (hknown d (List.mem_of_mem_filter hd)).1
    subst hfiles
    rw [Command.lint_eq hchecks hp', Command.exitCode_printUnknown,
      Command.exitCode_conclude a hfatal, halike.found, or_comm, or_assoc]
    rfl

end

/-- The tree of a call of `eval`, whose argument has one character, and of what comes after it. -/
def evalTree (argument : String) (after : List Script.Node) : Script.Node :=
  .mk "program" 0 (7 + after.length) none true
    [.mk "expression_statement" 0 (7 + after.length) none true
      (.mk "call_expression" 0 7 none true
        [.mk "identifier" 0 4 (some "function") true [],
         .mk "arguments" 4 7 (some "arguments") true
          [.mk "(" 4 5 none false [], .mk argument 5 6 none true [], .mk ")" 6 7 none false []]] ::
        after)]

/-- A grammar that knows some calls of `eval`. -/
abbrev evalGrammar : Script.Language :=
  .ofTrees ["program", "expression_statement", "call_expression", "identifier", "arguments",
    "number"]
    [("eval(a)", evalTree "identifier" []), ("eval(1)", evalTree "number" []),
     ("eval(2)", evalTree "number" []),
     ("eval(1);", evalTree "number" [.mk ";" 7 8 none false []])]

/-- An element that nothing registers, and a script with a banned name. -/
def evalPage : Workspace where
  store :=
    { files := [(["a.html"], "<x-a></x-a><script>eval(a)</script>".toUTF8)], directories := [[]] }
  directory := []

def evalPolicy : Policy where
  requirements := [{ kind := .bannedName, value := ["eval"] }]

theorem disabling_evalPage : letI := evalGrammar
    ∃ p, (Task.full (some evalPolicy) false).run evalPage ["a.html"] = .ok p ∧
    p.report.diagnostics.map (·.ruleId) = ["element-not-defined", "conformance"] ∧
    ∃ p', ({ Task.full (some evalPolicy) false with
        disabled := ["element-not-defined", "conformance"] }).run evalPage ["a.html"] = .ok p' ∧
      p'.report.diagnostics.map (·.ruleId) = ["conformance"] := by
  let _ := evalGrammar
  have hids : ((Task.full (some evalPolicy) false).run evalPage ["a.html"]).toOption.map
      (·.report.diagnostics.map (·.ruleId)) = some ["element-not-defined", "conformance"] := by
    decide +kernel
  cases hrun : (Task.full (some evalPolicy) false).run evalPage ["a.html"] with
  | error f =>
    rw [hrun] at hids
    cases hids
  | ok p =>
    rw [hrun] at hids
    have hids : p.report.diagnostics.map (·.ruleId) = ["element-not-defined", "conformance"] :=
      Option.some.inj hids
    obtain ⟨p', hp', hfound⟩ := (disabling_keeps_other_findings _ _ _ _ p hrun).1
      ["element-not-defined", "conformance"]
    refine ⟨p, rfl, hids, p', hp', ?_⟩
    have hfilter := List.filter_map (f := fun d : Diagnostic => d.ruleId)
      (p := fun id => id ∉ ["element-not-defined", "conformance"] ∨ id = Conformance.ruleId)
      (l := p.report.diagnostics)
    rw [hfound]
    refine hfilter.symm.trans ?_
    rw [hids]
    decide

/-! ### A path that reads like a tag -/

/-- A console with the one style `b`, whose closing tag needs an opening one. -/
abbrev boldConsole : Console where
  print text :=
    if Text.hasInfix "[/b]".toList text.toList && !Text.hasInfix "[b]".toList text.toList then
      .error (.crash .unopenedTag)
    else .ok (text ++ "\n")
  table _ _ := .ok ""
  escape text := text

/-- Readers to which no text is well formed. -/
abbrev DataFormats.unread : DataFormats where
  toml _ := .error .invalid
  yaml _ := .error .invalid
  yamlFile _ := .error .invalid

/-- A log over some files that has no handlers. -/
abbrev Log.Library.ofFiles (w : Workspace) : Log.Library Unit where
  installed _ := []
  add _ _ := ((), .error (.crash .badText))
  remove _ _ := ((), .error (.crash .badText))
  makeDirectory _ _ := ((), .ok ())
  files _ := w
  isLevel _ := false
  isTerminal := false

/-- A file whose path reads like a style tag that closes nothing. -/
def bracketedPath : Workspace where
  store := { files := [(["a[", "b].html"], ByteArray.empty)], directories := [[], ["a["]] }
  directory := []

theorem lint_bracketedPath_status : letI := boldConsole; letI := DataFormats.unread
    letI := Pattern.Engine.ofTexts []; letI := evalGrammar
    letI := Log.Library.ofFiles bracketedPath
    ((Task.full none false).run bracketedPath ["a[/b].html"]).toOption.map
      (·.report.diagnostics) = some [] ∧
    (Command.lint [] ({ library := () } : Log Unit)
      { files := ["a[/b].html"], noFollowImports := true }).exitCode = 1 := by
  decide +kernel

end ComponentLint
