import ComponentLint.Binding.Template
import ComponentLint.Rule.Basic

/-!
Bindings to native and accessibility attributes must be marked with `$`.
-/

namespace ComponentLint.Rule.NativeAttributes

open Binding (Occurrence attributeBindings isProblematic isAccessibility)

def id : String := "native-attribute-binding"

def isFlagged (o : Occurrence) : Bool :=
  let name := o.attributeName.getD ""
  isProblematic name o.place.item.tag? || isAccessibility name

def message (o : Occurrence) : String :=
  let name := o.attributeName.getD ""
  s!"The expression {o.expression} bound to the attribute '{name}' should use $= instead of =."

def checkComponent (m : Model) (c : Component) : List Diagnostic :=
  ((attributeBindings m c.tagName).filter isFlagged).map fun o => atPlace id o.place (message o)

def check (m : Model) : List Diagnostic :=
  (m.components.filter (·.tagName ≠ "")).flatMap (checkComponent m)

def rule : Rule := .ofFunction id "Native attribute bound without $=" check

end ComponentLint.Rule.NativeAttributes
