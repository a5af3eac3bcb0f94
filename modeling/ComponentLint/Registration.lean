import ComponentLint.Component
import ComponentLint.Script.Located

/-!
Components as scripts register them: an object literal passed to the registration function names
the tag and declares properties, observers and methods. Strings are taken as they are written
between their quotes.
-/

namespace ComponentLint.Registration

open Script (Node)
open Markup (Place)

/-- The function that registers a component. -/
def functionName : String := "Polymer"

/-- The nodes whose value is a function. -/
def functionKinds : List String :=
  ["function", "function_expression", "arrow_function", "generator_function"]

/-! ### Object literals -/

/-- The text of a string literal. -/
def stringValue (s : Script) (n : Node) : Except Fault (Option String) :=
  if n.kind = "string" then (s.textOf n).map fun t => some (Script.unquote t) else .ok none

/-- The name a key spells; a computed key spells none. -/
def keyName (s : Script) (n : Node) : Except Fault (Option String) :=
  if n.kind = "property_identifier" ∨ n.kind = "number" then (s.textOf n).map some
  else stringValue s n

/-- A member of an object literal; a method has no value. -/
structure Member where
  name : String
  key : Node
  value : Option Node

/-- A node as a member, if it is one with a name. -/
def member? (s : Script) (n : Node) : Except Fault (Option Member) := do
  let parts := if n.kind = "pair" then (n.child? "key").map (·, n.child? "value")
    else if n.kind = "method_definition" then (n.child? "name").map (·, none)
    else none
  match parts with
  | none => return none
  | some (key, value) => return (← keyName s key).map fun name => ⟨name, key, value⟩

/-- The members among nodes, in their order. -/
def membersOf (s : Script) : List Node → Except Fault (List Member)
  | [] => .ok []
  | n :: ns => do
    let here ← member? s n
    return here.toList ++ (← membersOf s ns)

def members (s : Script) (literal : Node) : Except Fault (List Member) :=
  membersOf s literal.namedChildren

/-! ### Properties -/

/-- Adds an option of a declaration to its property; the last of a kind counts. -/
def withOption (s : Script) (p : Property) (m : Member) : Except Fault Property := do
  match m.value with
  | none => return p
  | some v =>
    if m.name = "type" ∧ v.kind = "identifier" then return { p with type := ← s.textOf v }
    else if m.name = "observer" then
      match ← stringValue s v with
      | some observer =>
        return { p with observer := some observer, observerPosition := some (s.positionOf v) }
      | none => return p
    else return p

/-- The method a member declares. -/
def methodOf (s : Script) (m : Member) : Property :=
  { name := m.name, type := "Function", position := some (s.positionOf m.key) }

/-- The property an entry of `properties` declares: by its type alone, by options, or as a
function. -/
def declared (s : Script) (m : Member) : Except Fault Property := do
  let plain : Property := { name := m.name, position := some (s.positionOf m.key) }
  match m.value with
  | none => return methodOf s m
  | some v =>
    if functionKinds.contains v.kind then return methodOf s m
    else if v.kind = "identifier" then return { plain with type := ← s.textOf v }
    else if v.kind = "object" then (← members s v).foldlM (withOption s) plain
    else return plain

/-- The observers among the elements of an array: its strings. -/
def observersOf (s : Script) : List Node → Except Fault (List Observer)
  | [] => .ok []
  | n :: ns => do
    let here ← stringValue s n
    let observer := here.map fun e => { expression := e, position := some (s.positionOf n) }
    return observer.toList ++ (← observersOf s ns)

/-! ### Components -/

/-- What a member says about a component. -/
inductive Statement where
  | tag (name : Option String)
  | properties (ps : List Property)
  | observers (os : List Observer)

def statement (s : Script) (m : Member) : Except Fault Statement := do
  match m.value with
  | none => return .properties [methodOf s m]
  | some v =>
    if m.name = "is" then return .tag (← stringValue s v)
    else if m.name = "properties" ∧ v.kind = "object" then
      return .properties (← (← members s v).mapM (declared s))
    else if m.name = "observers" ∧ v.kind = "array" then
      return .observers (← observersOf s v.namedChildren)
    else if functionKinds.contains v.kind then return .properties [methodOf s m]
    else return .properties []

/-- Adds a statement; the last tag counts. -/
def apply (c : Component) : Statement → Component
  | .tag name => { c with tagName := name.getD "" }
  | .properties ps => { c with properties := c.properties ++ ps }
  | .observers os => { c with observers := c.observers ++ os }

/-- The component of an object literal registered by a script element, if it has a tag. -/
def component? (s : Script) (element : Place) (literal : Node) :
    Except Fault (Option Component) := do
  let statements ← (← members s literal).mapM (statement s)
  let c := statements.foldl apply
    { tagName := "", script := some element, contentHref := s.source.getD ""
      position := some (s.positionOf literal) }
  return if c.tagName = "" then none else some c

/-- The object literal a call registers. -/
def literal? (s : Script) (n : Node) : Except Fault (Option Node) := do
  if n.kind ≠ "call_expression" then return none
  match n.child? "function", n.child? "arguments" with
  | some function, some arguments =>
    if function.kind ≠ "identifier" then return none
    if (← s.textOf function) ≠ functionName then return none
    return arguments.namedChildren.head?.filter (·.kind == "object")
  | _, _ => return none

/-- The literals registered at nodes, in their order. -/
def literalsAt (s : Script) : List Node → Except Fault (List Node)
  | [] => .ok []
  | n :: ns => do
    let here ← literal? s n
    return here.toList ++ (← literalsAt s ns)

/-- The object literals a script registers, in the order of the text. -/
def literals (s : Script) : Except Fault (List Node) := literalsAt s s.root.walk

/-- The components a script element registers. -/
def components (s : Script) (element : Place) : Except Fault (List Component) := do
  return (← (← literals s).mapM (component? s element)).filterMap id

end ComponentLint.Registration
