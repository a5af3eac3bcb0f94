import ComponentLint.Yaml.Scalar
import ComponentLint.Yaml.Token

/-!
The tree of a YAML document and its value. An alias is replaced by the node of its anchor, which
must stand before it and not around it. Of a repeated key the last value counts; a merge key brings
in the entries of other mappings in front of the mapping's own. The program runs with this reader;
nothing is proved of it.
-/

namespace ComponentLint.Yaml

inductive Node where
  | scalar (kind : Kind) (text : String)
  | sequence (kind : Kind) (items : List Node)
  | mapping (kind : Kind) (entries : List (Node × Node))
  deriving Inhabited, Repr

/-! ### Trees from tokens -/

structure Composer where
  tokens : List Token
  /-- The nodes that aliases can stand for. -/
  anchors : List (String × Node) := []
  /-- The anchors that have been set, also those of nodes that are not complete. -/
  names : List String := []
  /-- What tag handles stand for. -/
  handles : List (String × String) := [("!", "!"), ("!!", standardPrefix)]

abbrev Compose := StateT Composer Option

/-- Where a node stands: in a flow collection, in a block, or as the key or value of a block
mapping, where a sequence needs no indentation. -/
inductive Context where
  | flow
  | block
  | member
  deriving DecidableEq

def nextToken : Compose (Option Token) := do
  return (← get).tokens.head?

def advance : Compose Unit := modify fun s => { s with tokens := s.tokens.drop 1 }

def isNext (t : Token) : Compose Bool := do
  return (← nextToken) == some t

def accept (t : Token) : Compose Bool := do
  if ← isNext t then
    advance
    return true
  else return false

def expect (t : Token) : Compose Unit := do
  if !(← accept t) then failure

def isNextOf (ts : List Token) : Compose Bool := do
  return ((← nextToken).map ts.contains).getD true

def empty : Node := .scalar .null ""

/-- Reads items until there is none; `fuel` is more than the number of tokens. -/
def repeatedly {α : Type} (item : Compose (Option α)) : Nat → Compose (List α)
  | 0 => failure
  | fuel + 1 => do
    match ← item with
    | none => return []
    | some a => return a :: (← repeatedly item fuel)

def manyOf {α : Type} (item : Compose (Option α)) : Compose (List α) := do
  repeatedly item ((← get).tokens.length + 1)

/-- A node, or an empty one before a token that ends its place. -/
def nodeUnless (node : Context → Compose Node) (context : Context) (ends : List Token) :
    Compose Node := do
  if ← isNextOf ends then return empty else node context

def blockSequence (node : Context → Compose Node) : Compose (List Node) := do
  let items ← manyOf (do
    if ← accept .blockEntry then
      return some (← nodeUnless node .block [.blockEntry, .blockEnd])
    else return none)
  expect .blockEnd
  return items

/-- The entries of a sequence at the indentation of the mapping around it. -/
def looseSequence (node : Context → Compose Node) : Compose (List Node) :=
  manyOf (do
    if ← accept .blockEntry then
      return some (← nodeUnless node .block [.blockEntry, .key, .value, .blockEnd])
    else return none)

def blockMapping (node : Context → Compose Node) : Compose (List (Node × Node)) := do
  let ends : List Token := [.key, .value, .blockEnd]
  let entries ← manyOf (do
    if ← accept .key then
      let key ← nodeUnless node .member ends
      if ← accept .value then return some (key, ← nodeUnless node .member ends)
      else return some (key, empty)
    else return none)
  expect .blockEnd
  return entries

/-- The key and value of a flow collection up to its end. -/
def flowPair (node : Context → Compose Node) (close : Token) : Compose (Node × Node) := do
  let key ← nodeUnless node .flow [.value, .flowEntry, close]
  if ← accept .value then return (key, ← nodeUnless node .flow [.flowEntry, close])
  else return (key, empty)

/-- Items between commas up to the end of a flow collection. -/
def flowItems {α : Type} (close : Token) (item : Compose α) : Compose (List α) := do
  if ← accept close then return []
  let first ← item
  let others ← manyOf (do
    if ← accept close then return none
    expect .flowEntry
    if ← accept close then return none
    return some (← item))
  return first :: others

def flowSequence (node : Context → Compose Node) : Compose (List Node) :=
  flowItems .flowSequenceEnd (do
    if ← accept .key then return .mapping .map [← flowPair node .flowSequenceEnd]
    else node .flow)

def flowMapping (node : Context → Compose Node) : Compose (List (Node × Node)) :=
  flowItems .flowMappingEnd (do
    if ← accept .key then flowPair node .flowMappingEnd
    else return (← node .flow, empty))

/-- The anchor and tag in front of a node, in either order. -/
def properties : Compose (Option String × Option String) := do
  let anchor ← acceptAnchor
  let tag ← acceptTag
  let anchor ← if anchor.isNone && tag.isSome then acceptAnchor else pure anchor
  return (anchor, tag)
where
  acceptAnchor : Compose (Option String) := do
    match ← nextToken with
    | some (.anchor name) =>
      advance
      return some name
    | _ => return none
  acceptTag : Compose (Option String) := do
    match ← nextToken with
    | some (.tag none suffix) =>
      advance
      return some suffix
    | some (.tag (some handle) suffix) =>
      advance
      match (← get).handles.lookup handle with
      | some start => return some (start ++ suffix)
      | none => failure
    | _ => return none

/-- The kind a node has by its tag, or without one. -/
def kindBy (tag : Option String) (default : Kind) : Kind :=
  match tag with
  | none | some "!" => default
  | some t => .ofTag t

/-- A node after its anchor and tag. -/
def content (node : Context → Compose Node) (context : Context) (marked : Bool)
    (tag : Option String) : Compose Node := do
  if context = .member ∧ (← nextToken) = some .blockEntry then
    return .sequence (kindBy tag .seq) (← looseSequence node)
  match ← nextToken with
  | some (.scalar text plain) =>
    advance
    let default := if plain ∨ tag = some "!" then kindOf text else .str
    return .scalar (kindBy tag default) text
  | some .flowSequenceStart =>
    advance
    return .sequence (kindBy tag .seq) (← flowSequence node)
  | some .flowMappingStart =>
    advance
    return .mapping (kindBy tag .map) (← flowMapping node)
  | some .blockSequenceStart =>
    if context = .flow then failure
    advance
    return .sequence (kindBy tag .seq) (← blockSequence node)
  | some .blockMappingStart =>
    if context = .flow then failure
    advance
    return .mapping (kindBy tag .map) (← blockMapping node)
  | _ => if marked then return .scalar (kindBy tag .null) "" else failure

/-- A node or an alias of one. -/
def nodeWith (node : Context → Compose Node) (context : Context) : Compose Node := do
  match ← nextToken with
  | some (.alias name) =>
    advance
    match (← get).anchors.lookup name with
    | some n => return n
    | none => failure
  | _ =>
    let (anchor, tag) ← properties
    match anchor with
    | none => content node context tag.isSome tag
    | some name =>
      if (← get).names.contains name then failure
      modify fun s => { s with names := name :: s.names }
      let n ← content node context true tag
      modify fun s => { s with anchors := (name, n) :: s.anchors }
      return n

/-- Nodes to a depth of nesting. -/
def nodeAt : Nat → Context → Compose Node
  | 0 => fun _ => failure
  | depth + 1 => nodeWith (nodeAt depth)

/-! ### Documents -/

/-- Applies the directives in front of a document; a version other than 1 and a directive given
twice are refused. -/
def directives (versioned : Bool) (handles : List String) : List Token → Compose Unit
  | .directive (.version major) :: rest => do
    if versioned || major != 1 then failure
    directives true handles rest
  | .directive (.tag handle start) :: rest => do
    if handles.contains handle then failure
    modify fun s => { s with handles := (handle, start) :: s.handles }
    directives versioned (handle :: handles) rest
  | .directive .other :: rest => directives versioned handles rest
  | rest => modify fun s => { s with tokens := rest }

def isDirective : Token → Bool
  | .directive _ => true
  | _ => false

/-- The root of the only document of a text. -/
def document : Compose Node := do
  let depth := (← get).tokens.length + 1
  let first ← nextToken
  let root ← if (first.map fun t => isDirective t || t == .documentStart).getD false then do
      directives false [] (← get).tokens
      expect .documentStart
      let ended := ((← nextToken).map fun t =>
        isDirective t || t == .documentStart || t == .documentEnd).getD true
      if ended then pure empty else nodeAt depth .block
    else nodeAt depth .block
  let _ ← manyOf (do
    if ← accept .documentEnd then return some () else return none)
  if (← nextToken).isSome then failure
  return root

/-! ### Values -/

/-- Mappings and sequences cannot be keys. -/
def isKey : Value → Bool
  | .list _ | .map _ => false
  | _ => true

mutual

def Node.value : Node → Except ReadFailure Value
  | .scalar kind text => scalarValue kind text
  | .sequence kind items => do
    if kind ≠ .seq then throw .invalid
    return .list (← itemValues items)
  | .mapping kind entries => do
    if kind ≠ .map then throw .invalid
    let (merged, own) ← entryValues entries
    return .map ((merged ++ own).foldl (fun es e => Value.setEntry e.1 e.2 es) [])

def itemValues : List Node → Except ReadFailure (List Value)
  | [] => .ok []
  | n :: ns => do
    let v ← n.value
    return v :: (← itemValues ns)

/-- The entries merge keys bring in, and those a mapping has itself. -/
def entryValues : List (Node × Node) →
    Except ReadFailure (List (Value × Value) × List (Value × Value))
  | [] => .ok ([], [])
  | (.scalar .merge _, n) :: es => do
    let here ← mergedEntries n
    let (merged, own) ← entryValues es
    return (here ++ merged, own)
  | (k, n) :: es => do
    let key ← match k with
      | .scalar .value text => pure (.str text)
      | k => k.value
    if !isKey key then throw .invalid
    let v ← n.value
    let (merged, own) ← entryValues es
    return (merged, (key, v) :: own)

/-- The entries of a mapping, or of several, the last of which come first. -/
def mergedEntries : Node → Except ReadFailure (List (Value × Value))
  | .mapping _ entries => do
    let (merged, own) ← entryValues entries
    return merged ++ own
  | .sequence _ items => mergedAll items
  | .scalar .. => .error .invalid

def mergedAll : List Node → Except ReadFailure (List (Value × Value))
  | [] => .ok []
  | .mapping _ entries :: ns => do
    let (merged, own) ← entryValues entries
    return (← mergedAll ns) ++ merged ++ own
  | _ :: _ => .error .invalid

end

/-- The value of a text; an empty one has the value null. -/
def parse (text : String) : Except ReadFailure Value :=
  match tokens? text.toList with
  | none => .error .invalid
  | some [] => .ok .null
  | some tokens =>
    match document.run { tokens := tokens } with
    | some (root, _) => root.value
    | none => .error .invalid

end ComponentLint.Yaml
