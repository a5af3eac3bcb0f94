import ComponentLint.Binding.Template
import ComponentLint.Rule.Basic

/-!
The binding delimiters in a component's templates must pair up.
-/

namespace ComponentLint.Rule.UnbalancedDelimiters

open Binding (badBindings)

def id : String := "unbalanced-delimiters"

def checkComponent (m : Model) (c : Component) : List Diagnostic :=
  (badBindings m c.tagName).map fun o =>
    atPlace id o.place s!"Expression {o.expression} has unbalanced delimiters"

def check (m : Model) : List Diagnostic :=
  (m.components.filter (·.tagName ≠ "")).flatMap (checkComponent m)

def rule : Rule := .ofFunction id "Binding expression has unbalanced delimiters" check

end ComponentLint.Rule.UnbalancedDelimiters
