import ComponentLint.Binding.Attribute
import ComponentLint.Binding.Delimiters
import ComponentLint.Component

/-!
Where a component binds. Only the outermost templates of its first `dom-module` are searched: a
template inside them opens a scope of its own, so its content is left out, though its attributes
still belong to the outer scope.
-/

namespace ComponentLint.Binding

open Markup (Attribute Place)

/-- Whether a place lies inside a template that itself lies inside a template. -/
def inNestedTemplate (p : Place) : Bool :=
  p.hasAncestor fun a => a.isTemplate && a.hasAncestor Place.isTemplate

def isOuterTemplate (p : Place) : Bool := p.isTemplate && !p.hasAncestor Place.isTemplate

/-- The outermost templates of a component. -/
def templates (m : Model) (id : String) : List Place :=
  match m.domModules id with
  | [] => []
  | first :: _ => first.walkAll isOuterTemplate

/-- The texts in the scope of a component's templates. -/
def textNodes (m : Model) (id : String) : List Place :=
  (templates m id).flatMap fun t => t.walkAll fun p => p.isText && !inNestedTemplate p

/-- The attributes in the scope of a component's templates, each with its element. -/
def attributes (m : Model) (id : String) : List (Place × Attribute) :=
  (templates m id).flatMap fun t =>
    (t.walkAll fun p => !inNestedTemplate p).flatMap fun p => p.item.attributes.map (p, ·)

/-- A binding found in a template. -/
structure Occurrence where
  expression : String
  place : Place
  parsed : Expression
  attributeName : Option String := none
  /-- Whether the binding is to a native attribute, marked as such. -/
  native : Bool := false

/-- A text whose binding delimiters do not pair up. -/
structure BadOccurrence where
  expression : String
  place : Place
  attributeName : Option String := none
  unwrapped : Option String := none

/-- The text of a text node. -/
def textAt (p : Place) : String := p.item.text?.getD ""

def textBindings (m : Model) (id : String) : List Occurrence :=
  (textNodes m id).filterMap fun p =>
    let text := textAt p
    if isBound text then some { expression := text, place := p, parsed := Expression.parse text }
    else none

def attributeBindings (m : Model) (id : String) : List Occurrence :=
  (attributes m id).filterMap fun (p, a) =>
    match a.value with
    | none => none
    | some value =>
      if value ≠ "" ∧ isBound value then
        some
          { expression := value
            place := p
            parsed := Expression.parse value
            attributeName := some a.name
            native := isNativeBinding a.name }
      else none

/-- Texts, then attribute values, whose delimiters do not pair up. -/
def badBindings (m : Model) (id : String) : List BadOccurrence :=
  let texts := (textNodes m id).filterMap fun p =>
    let text := textAt p
    if isUnbalanced text then
      some { expression := text, place := p, unwrapped := Expression.extract text : BadOccurrence }
    else none
  let values := (attributes m id).filterMap fun (p, a) =>
    match a.value with
    | none => none
    | some value =>
      if value ≠ "" ∧ isUnbalanced value then
        some
          { expression := value
            place := p
            attributeName := some a.name
            unwrapped := Expression.extract value : BadOccurrence }
      else none
  texts ++ values

/-- The attribute bindings that use a key. -/
def usesOf (key : String) (occurrences : List Occurrence) : List Occurrence :=
  occurrences.filter fun o => o.parsed.keys.contains key

/-- Whether a key needs no declaration: several attribute bindings use it, or a native one. -/
def isImplicit (occurrences : List Occurrence) (key : String) : Bool :=
  let uses := usesOf key occurrences
  key ≠ "" ∧ (1 < uses.length ∨ uses.any (·.native))

/-- The keys that need no declaration, in order of appearance. -/
def implicitKeys (occurrences : List Occurrence) : List String :=
  ((occurrences.flatMap (·.parsed.keys)).filter (isImplicit occurrences)).eraseDups

end ComponentLint.Binding
