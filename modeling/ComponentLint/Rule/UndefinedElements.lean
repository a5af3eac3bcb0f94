import ComponentLint.Rule.Basic

/-!
Custom elements that are used must be registered.
-/

namespace ComponentLint.Rule.UndefinedElements

open Markup (Place)

def id : String := "element-not-defined"

/-- The elements the templating system provides by itself. -/
def provided : List String :=
  ["dom-module", "dom-repeat", "dom-if", "dom-bind", "array-selector", "custom-style",
   "test-fixture"]

/-- Whether a hyphen stands between two characters of one line. -/
def isHyphenated : List Char → Bool
  | a :: b :: c :: rest => (a ≠ '\n' && b == '-' && c ≠ '\n') || isHyphenated (b :: c :: rest)
  | _ => false

def isCustomElement (p : Place) : Bool := (p.item.tag?.map fun t => isHyphenated t.toList).getD false

def isUndefined (m : Model) (tag : String) : Bool := !m.isDefined tag && !provided.contains tag

def check (m : Model) : List Diagnostic :=
  (m.walkAll isCustomElement).filterMap fun p =>
    let tag := p.item.tag?.getD ""
    if isUndefined m tag then some (atPlace id p s!"<{tag}> is undefined.") else none

def rule : Rule := .ofFunction id "Custom element is used but never defined" check

end ComponentLint.Rule.UndefinedElements
