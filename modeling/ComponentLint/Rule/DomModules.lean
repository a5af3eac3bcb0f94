import ComponentLint.Rule.Basic

/-!
The `dom-module` of a component must be the only one of its id and stand before its script.
-/

namespace ComponentLint.Rule.DomModules

open Markup (Place)

def id : String := "dom-module-after-polymer"

/-- The component of the framework itself, which has no template. -/
def baseComponent : String := "Polymer.Base"

/-- What the script of a component looks for before it. -/
def isModuleOf (c : Component) (p : Place) : Bool :=
  Place.hasTag "dom-module" p && Place.hasAttributeValue "id" (some c.tagName) p

def checkComponent (m : Model) (c : Component) : List Diagnostic :=
  if c.tagName = baseComponent then []
  else match m.domModules c.tagName with
    | [] => []
    | [single] =>
      match c.script with
      | none => []
      | some script =>
        if (script.walkPrior (isModuleOf c)).isSome then []
        else
          [atPlace id single
            s!"dom-module for {c.tagName} should be a parent of it or earlier in the document."]
    | several =>
      several.map (atPlace id · s!"dom-module has a repeated value for id {c.tagName}.")

def check (m : Model) : List Diagnostic := m.components.flatMap (checkComponent m)

def rule : Rule :=
  .ofFunction id "dom-module is repeated or appears after its Polymer() call" check

end ComponentLint.Rule.DomModules
