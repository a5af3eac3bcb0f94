import ComponentLint.Rule.Basic

/-!
The observer of a property must be a method of the same component.
-/

namespace ComponentLint.Rule.Observers

def id : String := "observer-not-function"

def checkProperty (c : Component) (p : Property) : Option Diagnostic :=
  match p.observer with
  | none => none
  | some name =>
    if name = "" then none
    else match c.properties.find? (·.name == name) with
      | none => some (atPosition id p.observerPosition c s!"Observer '{name}' is undefined.")
      | some target =>
        if target.isFunction then none
        else some (atPosition id target.position c s!"Observer '{name}' is not a function.")

def check (m : Model) : List Diagnostic :=
  m.components.flatMap fun c => c.properties.filterMap (checkProperty c)

def rule : Rule := .ofFunction id "Property observer is undefined or not a function" check

end ComponentLint.Rule.Observers
