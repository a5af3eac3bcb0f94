import ComponentLint.Rule.BoundVariables
import ComponentLint.Rule.DomModules
import ComponentLint.Rule.NativeAttributes
import ComponentLint.Rule.Observers
import ComponentLint.Rule.UnbalancedDelimiters
import ComponentLint.Rule.UndefinedElements

/-!
The rules of a run, in the order of registration. An id can be registered once; disabling rules
leaves the others as they are.
-/

namespace ComponentLint

structure Registry where
  rules : List Rule := []

namespace Registry

def get? (r : Registry) (id : String) : Option Rule := r.rules.find? (·.id == id)

def register (r : Registry) (rule : Rule) : Except Fault Registry :=
  if r.rules.any (·.id == rule.id) then .error (.duplicateRule rule.id)
  else .ok ⟨r.rules ++ [rule]⟩

def ofList (rules : List Rule) : Except Fault Registry := rules.foldlM register {}

def ids (r : Registry) : List String := r.rules.map (·.id)

/-- The rules whose id is not among the given ones. -/
def without (r : Registry) (disabled : List String) : List Rule :=
  r.rules.filter fun rule => !disabled.contains rule.id

/-- The rules that come with the program. -/
def builtin : Registry :=
  ⟨[Rule.BoundVariables.rule, Rule.UndefinedElements.rule, Rule.NativeAttributes.rule,
    Rule.Observers.rule, Rule.DomModules.rule, Rule.UnbalancedDelimiters.rule]⟩

end Registry

/-- The findings of rules one after the other; a rule that fails ends the run. -/
def Rule.runAll (m : Model) (path : String) : List Rule → Except Fault (List Diagnostic)
  | [] => .ok []
  | rule :: rules => do
    let found ← rule.check m path
    return found ++ (← runAll m path rules)

/-- The findings of the rules that are not disabled. -/
def Registry.run (r : Registry) (m : Model) (path : String) (disabled : List String) :
    Except Fault (List Diagnostic) :=
  Rule.runAll m path (r.without disabled)

end ComponentLint
