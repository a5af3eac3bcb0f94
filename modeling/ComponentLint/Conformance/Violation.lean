import ComponentLint.Conformance.Index
import ComponentLint.Policy.Requirement
import ComponentLint.Script.Located

/-!
What a requirement finds in a script. Each kind of requirement comes down to tests registered
under the kinds of nodes they look at; a test sees the node at the end of its chain, the node the
walk is at, and the parent of that node.
-/

namespace ComponentLint.Conformance

open Script (Node)

/-! ### Names and accesses -/

/-- `a.b.c` for a chain of plain member accesses from an identifier or `this`. -/
def dottedName (s : Script) (n : Node) : Except Fault (Option String) :=
  if n.kind = "identifier" ∨ n.kind = "this" then (s.textOf n).map some
  else if n.kind ≠ "member_expression" then .ok none
  else
    match _h : n.child? "object", n.child? "property" with
    | some target, some property => do
      match ← dottedName s target with
      | none => return none
      | some name => return some (name ++ "." ++ (← s.textOf property))
    | _, _ => .ok none
termination_by n.size
decreasing_by exact Node.size_lt_of_child? _h

/-- The property that `object.name` or `object['name']` accesses. -/
def accessedProperty (s : Script) (n : Node) : Except Fault (Option String) :=
  if n.kind = "member_expression" then
    match n.child? "property" with
    | some p => (s.textOf p).map some
    | none => .ok none
  else if n.kind = "subscript_expression" then
    match n.child? "index" with
    | some i =>
      if i.kind = "string" then (s.textOf i).map fun t => some (Script.unquote t) else .ok none
    | none => .ok none
  else .ok none

def assignmentKinds : List String := ["assignment_expression", "augmented_assignment_expression"]

def accessKinds : List String := ["member_expression", "subscript_expression"]

/-- The nodes that name a variable. -/
def nameKinds : List String :=
  ["identifier", "shorthand_property_identifier", "shorthand_property_identifier_pattern"]

/-- The nodes whose identifiers are labels. -/
def labelKinds : List String := ["labeled_statement", "break_statement", "continue_statement"]

/-- Whether a node is what its parent assigns to. -/
def isAssignmentTarget (n : Node) : Option Node → Bool
  | none => false
  | some parent =>
    assignmentKinds.contains parent.kind && ((parent.child? "left").map (·.same n)).getD false

/-! ### Tests -/

/-- What a test asks of the node at the end of its chain. -/
inductive Ask where
  /-- A variable of one of these names, other than as a label. -/
  | name (names : List String)
  /-- A chain of members that spells one of these names. -/
  | chain (names : List String)
  /-- An access to one of these properties. -/
  | access (properties : List String)
  /-- An access to one of these properties that is not assigned to. -/
  | read (properties : List String)
  deriving DecidableEq, Repr

/-- A test on behalf of a requirement. -/
structure Test where
  requirement : Requirement
  ask : Ask

/-- A finding before it is located. -/
structure Violation where
  node : Node
  message : String

def messageFor (r : Requirement) (matched : String) : String :=
  match Requirement.nonEmpty r.errorMessage with
  | some m => m
  | none => s!"{matched} violates {r.kind.name} requirement"

namespace Ask

/-- The banned name found at a node, if any. -/
def found (s : Script) (target node : Node) (parent : Option Node) :
    Ask → Except Fault (Option String)
  | name names =>
    if (parent.map fun p => labelKinds.contains p.kind).getD false then .ok none
    else (s.textOf target).map fun t => if names.contains t then some t else none
  | chain names => (dottedName s target).map fun t => t.filter names.contains
  | access properties => (accessedProperty s target).map fun t => t.filter properties.contains
  | read properties =>
    if isAssignmentTarget node parent then .ok none
    else (accessedProperty s target).map fun t => t.filter properties.contains

end Ask

def Test.run (s : Script) (target node : Node) (parent : Option Node) (t : Test) :
    Except Fault (Option Violation) :=
  (t.ask.found s target node parent).map fun r =>
    r.map fun name => ⟨target, messageFor t.requirement name⟩

/-! ### Requirements as tests -/

/-- A test with the chain it is registered under. -/
structure Registration where
  ask : Ask
  kind : String
  steps : List Step := []
  deriving DecidableEq, Repr

/-- The last segments of dotted names. -/
def lastSegments (values : List String) : List String :=
  values.map fun v => String.ofList (Text.afterLast '.' v.toList)

/-- The registrations of a requirement; `none` for the kinds that have no tests yet. -/
def registrations (r : Requirement) : Option (List Registration) :=
  let properties := lastSegments r.value
  match r.kind with
  | .bannedName =>
    let names := r.value.filter fun v => !v.toList.contains '.'
    let chains := r.value.filter fun v => v.toList.contains '.'
    some ((if names.isEmpty then [] else nameKinds.map fun k => { ask := .name names, kind := k }) ++
      (if chains.isEmpty then [] else [{ ask := .chain chains, kind := "member_expression" }]))
  | .bannedProperty => some (accessKinds.map fun k => { ask := .access properties, kind := k })
  | .bannedPropertyRead => some (accessKinds.map fun k => { ask := .read properties, kind := k })
  | .bannedPropertyWrite =>
    some (assignmentKinds.flatMap fun a => accessKinds.map fun k =>
      { ask := .access properties, kind := a, steps := [⟨"left", k⟩] })
  | .bannedPropertyCall =>
    some (accessKinds.map fun k =>
      { ask := .access properties, kind := "call_expression", steps := [⟨"function", k⟩] })
  | _ => none

/-- Registers the tests of a requirement. -/
def compileOne (i : Index Test) (r : Requirement) : Index Test :=
  ((registrations r).getD []).foldl (fun i g => (i.add ⟨r, g.ask⟩ g.kind g.steps).1) i

/-- The index of a list of requirements. -/
def compile (rs : List Requirement) : Index Test := rs.foldl compileOne .nil

/-- The kinds among the requirements that have no tests yet. -/
def unsupported (rs : List Requirement) : List RequirementKind :=
  (rs.filter fun r => (registrations r).isNone).map (·.kind)

end ComponentLint.Conformance
