import ComponentLint.Analysis
import ComponentLint.Conformance.Lint
import ComponentLint.Rule.Registry

/-!
A run over several inputs. A template is checked by the rules together with everything it
imports; scripts are checked against the policy, each path once in a run.
-/

namespace ComponentLint

/-- What a run is to do. -/
structure Task where
  policy : Option Policy := none
  /-- The ids of rules that are left out. -/
  disabled : List String := []
  followImports : Bool := true
  rules : Registry := Registry.builtin

/-- What a run has found so far, and the paths whose scripts have been checked. -/
structure Progress where
  report : Report := {}
  warnings : List Warning := []
  checked : List String := []

namespace Task

/-- The endings of script files. -/
def scriptSuffixes : List String := [".js", ".mjs"]

variable [Script.Language]

/-- The scripts of an input, with what the rules find in a template. -/
def examine (t : Task) (w : Workspace) (path : String) :
    Except Fault (List (String × List Script) × List Diagnostic × List Warning) := do
  if scriptSuffixes.contains (Path.suffix path) then
    let text ← w.readText "script" path
    return ([(path, [{ root := Script.Language.parse text, text := text, source := some path }])], [], [])
  else
    let a ← Analysis.ofEntry w.named t.followImports path
    return (a.scripts, ← t.rules.run a.model path t.disabled, a.warnings)

def step (t : Task) (w : Workspace) (p : Progress) (path : String) : Except Fault Progress := do
  let (scripts, found, warned) ← t.examine w path
  let p := { p with report := p.report.extend found, warnings := p.warnings ++ warned }
  match t.policy with
  | none => return p
  | some policy =>
    let fresh := scripts.filter fun s => !p.checked.contains s.1
    let violations ← Conformance.lint policy fresh
    return { report := p.report.extend violations
             warnings := p.warnings ++ Conformance.warnings policy (fresh.map (·.1))
             checked := p.checked ++ fresh.map (·.1) }

/-- Checks inputs in turn. -/
def run (t : Task) (w : Workspace) (inputs : List String) : Except Fault Progress :=
  inputs.foldlM (t.step w) {}

end Task

end ComponentLint
