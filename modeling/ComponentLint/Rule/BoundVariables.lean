import ComponentLint.Binding.Template
import ComponentLint.Rule.Basic

/-!
Bindings and observers may only use properties and methods that are declared.
-/

namespace ComponentLint.Rule.BoundVariables

open Binding (Occurrence isImplicit attributeBindings textBindings)

def id : String := "bound-variables-declared"

/-- The properties every component has without declaring them. -/
def builtins : List Property := [{ name := "isAttached", type := "boolean" }]

/-- What is wrong with a method, if anything; the last declaration of a name counts. -/
def methodMessage? (label tag method : String) (properties : List Property) : Option String :=
  match (properties.filter (·.name == method)).getLast? with
  | none => some s!"{label} method '{method}' is not defined on element '{tag}'"
  | some p =>
    if p.isFunction then none
    else some s!"{label} using property '{method}', which is not a function for element '{tag}'"

/-- The report of an undeclared key; it names the attribute the key is bound to. -/
def keyMessage (tag key : String) : Option String → String
  | some bound =>
    if bound = "" then s!"Property {key} not found in 'properties' for element '{tag}'"
    else
      s!"Property '{key}' bound to attribute '{bound}' not found in 'properties' for element '{tag}'"
  | none => s!"Property {key} not found in 'properties' for element '{tag}'"

def isMissing (properties : List Property) (implicit : String → Bool) (key : String) : Bool :=
  key ≠ "" ∧ !implicit key ∧ !properties.any (·.name == key)

/-- The messages for one expression: its method first, then its keys. -/
def messages (label tag : String) (properties : List Property) (implicit : String → Bool)
    (bound : Option String) (e : Expression) : List String :=
  e.methods.filterMap (methodMessage? label tag · properties) ++
    (e.keys.filter (isMissing properties implicit)).map (keyMessage tag · bound)

def checkComponent (m : Model) (c : Component) : List Diagnostic :=
  let properties := c.properties ++ builtins
  let attributes := attributeBindings m c.tagName
  let implicit := isImplicit attributes
  let occurrences := attributes ++ textBindings m c.tagName
  let inTemplates := occurrences.flatMap fun o =>
    (messages "Computed Binding" c.tagName properties implicit o.attributeName o.parsed).map
      (atPlace id o.place)
  let inObservers := c.observers.flatMap fun o =>
    let parsed := Expression.parse ("\x7b\x7b" ++ o.expression ++ "\x7d\x7d")
    (messages "Observer" c.tagName properties implicit none parsed).map
      (atPosition id o.position c)
  inTemplates ++ inObservers

def check (m : Model) : List Diagnostic :=
  (m.components.filter (·.tagName ≠ "")).flatMap (checkComponent m)

def rule : Rule := .ofFunction id "Binding references an undeclared property or method" check

end ComponentLint.Rule.BoundVariables
