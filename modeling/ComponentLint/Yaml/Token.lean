import ComponentLint.Yaml.Cursor

/-!
The tokens of a YAML text. Indentation shows in the tokens that open and close block collections.
A key in front of a colon is only known to be one when the colon comes: places where a key may
have started are kept, and the tokens that say so are put in afterwards.
-/

namespace ComponentLint.Yaml

inductive Directive where
  | version (major : Nat)
  | tag (handle tagPrefix : String)
  | other
  deriving DecidableEq, Repr

inductive Token where
  | directive (d : Directive)
  | documentStart
  | documentEnd
  | blockSequenceStart
  | blockMappingStart
  | blockEnd
  | flowSequenceStart
  | flowSequenceEnd
  | flowMappingStart
  | flowMappingEnd
  | blockEntry
  | flowEntry
  | key
  | value
  | alias (name : String)
  | anchor (name : String)
  /-- A tag; without a handle the suffix is all of it. -/
  | tag (handle : Option String) (suffix : String)
  | scalar (text : String) (plain : Bool)
  deriving DecidableEq, Repr

/-! ### Directives, anchors and tags -/

def nameText : Reader String := do
  let s ← takeWhile isNameChar
  if s = [] then failure
  return String.ofList s

def digitsNumber : Reader Nat := do
  let s ← takeWhile Text.isAsciiDigit
  if s = [] then failure
  return Number.digitsValue s

/-- The name of an anchor or alias after its mark. -/
def anchorName : Reader String := do
  forward
  let name ← nameText
  let next ← peek
  if isGap next || (next.map "?:,]\x7d%@`".toList.contains).getD false then return name
  failure

/-- A tag handle: `!`, `!!`, or a name between the two marks. -/
def tagHandle : Reader String := do
  if (← peek) ≠ some '!' then failure
  let rest := (← get).rest.drop 1
  let name := rest.takeWhile isNameChar
  if (rest.drop name.length).head? = some '!' then
    forward (name.length + 2)
    return String.ofList ('!' :: name ++ ['!'])
  else if rest.head? = some ' ' then
    forward
    return "!"
  else failure

def isUriChar (c : Char) : Bool :=
  isNameChar c || ";/?:@&=+$,.!~*'()[]".toList.contains c

/-- The bytes of a run of `%` escapes. -/
def uriBytes : Nat → List Char → List UInt8
  | fuel + 1, '%' :: a :: b :: rest =>
    match Json.hexDigit? a, Json.hexDigit? b with
    | some x, some y => (x * 16 + y).toUInt8 :: uriBytes fuel rest
    | _, _ => []
  | _, _ => []

/-- The text of a tag, with `%` escapes for bytes of UTF-8. -/
def tagUri : Reader String := do
  let pieces ← many (do
    let plain ← takeWhile isUriChar
    if plain ≠ [] then return some plain
    if (← peek) ≠ some '%' then return none
    let bytes := uriBytes ((← get).rest.length + 1) (← get).rest
    match String.fromUTF8? ⟨bytes.toArray⟩ with
    | some s =>
      if bytes = [] then failure
      forward (3 * bytes.length)
      return some s.toList
    | none => failure)
  if pieces.flatten = [] then failure
  return String.ofList pieces.flatten

def directive : Reader Directive := do
  forward
  let name ← nameText
  if !isSpaceOrEnd (← peek) then failure
  let d ← if name = "YAML" then do
      skipSpaces
      let major ← digitsNumber
      if (← peek) ≠ some '.' then failure
      forward
      let _ ← digitsNumber
      if !isSpaceOrEnd (← peek) then failure
      pure (.version major)
    else if name = "TAG" then do
      skipSpaces
      let handle ← tagHandle
      if (← peek) ≠ some ' ' then failure
      skipSpaces
      let tagPrefix ← tagUri
      if !isSpaceOrEnd (← peek) then failure
      pure (.tag handle tagPrefix)
    else do
      let _ ← takeWhile (!isBreak ·)
      pure .other
  ignoredLine
  return d

def tagToken : Reader Token := do
  let c ← get
  let token ← match c.peek 1 with
    | some '<' => do
      forward 2
      let suffix ← tagUri
      if (← peek) ≠ some '>' then failure
      forward
      pure (Token.tag none suffix)
    | next =>
      if isGap next then do
        forward
        pure (.tag none "!")
      else do
        let word := (c.rest.drop 1).takeWhile fun ch => ch != ' ' && !isBreak ch
        let handle ← if word.contains '!' then tagHandle else do
          forward
          pure "!"
        pure (.tag (some handle) (← tagUri))
  if !isSpaceOrEnd (← peek) then failure
  return token

/-! ### The scanner -/

/-- A place where a key may have started; a required one must turn out to be a key. -/
structure PossibleKey where
  /-- The tokens before it. -/
  number : Nat
  required : Bool
  index : Nat
  line : Nat
  column : Nat

structure Scanner where
  cursor : Cursor
  tokens : List Token := []
  /-- How many flow collections are open. -/
  flow : Nat := 0
  /-- The indentation of the open block collections, the innermost first. -/
  indents : List Nat := []
  /-- Whether a key may start here. -/
  allowKey : Bool := true
  /-- The possible keys by the number of flow collections around them. -/
  keys : List (Nat × PossibleKey) := []

abbrev Scan := StateT Scanner Option

/-- Reads characters. -/
def read {α : Type} (r : Reader α) : Scan α := do
  let s ← get
  match r.run s.cursor with
  | none => failure
  | some (a, c) =>
    set { s with cursor := c }
    return a

def emit (t : Token) : Scan Unit := modify fun s => { s with tokens := s.tokens ++ [t] }

def allowKey (b : Bool) : Scan Unit := modify fun s => { s with allowKey := b }

def Scanner.indent (s : Scanner) : Int :=
  match s.indents with
  | [] => -1
  | n :: _ => n

/-- Passes spaces, comments and line ends; outside flow collections a new line may start a key. -/
def skipToToken : Nat → Scan Unit
  | 0 => failure
  | fuel + 1 => do
    read skipSpaces
    if (← get).cursor.peek = some '#' then
      let _ ← read (takeWhile (!isBreak ·))
    let b ← read lineBreak
    if b ≠ [] then
      if (← get).flow = 0 then allowKey true
      skipToToken fuel

/-- Drops the possible keys that have become impossible: those on an earlier line or too far
back. -/
def dropStaleKeys : Scan Unit := do
  let s ← get
  let isStale := fun (k : PossibleKey) => k.line ≠ s.cursor.line ∨ 1024 < s.cursor.index - k.index
  if s.keys.any fun k => isStale k.2 && k.2.required then failure
  set { s with keys := s.keys.filter fun k => !isStale k.2 }

/-- Drops the possible key of the current level. -/
def dropKey : Scan Unit := do
  let s ← get
  if s.keys.any fun k => k.1 == s.flow && k.2.required then failure
  set { s with keys := s.keys.filter (·.1 != s.flow) }

/-- Notes that a key may start here. -/
def noteKey : Scan Unit := do
  let s ← get
  if s.allowKey then
    let required := s.flow = 0 ∧ s.indent = s.cursor.column
    dropKey
    modify fun s => { s with
      keys := s.keys ++
        [(s.flow, ⟨s.tokens.length, required, s.cursor.index, s.cursor.line, s.cursor.column⟩)] }

/-- The number of open blocks that are indented further than a column. -/
def closing (column : Int) (indents : List Nat) : Nat :=
  (indents.takeWhile fun (n : Nat) => column < n).length

/-- Closes the blocks that are indented further than a column. -/
def unwind (column : Int) : Scan Unit := do
  let s ← get
  if s.flow = 0 then
    let n := closing column s.indents
    set { s with indents := s.indents.drop n, tokens := s.tokens ++ List.replicate n Token.blockEnd }

/-- Opens a block at a column further in than the current one. -/
def openBlock (column : Nat) (start : Token) (number : Nat) : Scan Unit := do
  let s ← get
  if s.indent < column then
    set { s with
      indents := column :: s.indents
      tokens := s.tokens.take number ++ start :: s.tokens.drop number }

/-! ### Fetching tokens -/

def fetchMarker (t : Token) : Scan Unit := do
  unwind (-1)
  dropKey
  allowKey false
  read (forward 3)
  emit t

def fetchDirective : Scan Unit := do
  unwind (-1)
  dropKey
  allowKey false
  emit (.directive (← read directive))

def fetchFlowStart (t : Token) : Scan Unit := do
  noteKey
  modify fun s => { s with flow := s.flow + 1, allowKey := true }
  read forward
  emit t

def fetchFlowEnd (t : Token) : Scan Unit := do
  dropKey
  if (← get).flow = 0 then failure
  modify fun s => { s with flow := s.flow - 1, allowKey := false }
  read forward
  emit t

def fetchFlowEntry : Scan Unit := do
  allowKey true
  dropKey
  read forward
  emit .flowEntry

/-- Opens a block at the current column where one is due. -/
def openHere (start : Token) : Scan Unit := do
  let s ← get
  if s.flow = 0 then
    if !s.allowKey then failure
    openBlock s.cursor.column start s.tokens.length

def fetchBlockEntry : Scan Unit := do
  openHere .blockSequenceStart
  allowKey true
  dropKey
  read forward
  emit .blockEntry

def fetchKey : Scan Unit := do
  openHere .blockMappingStart
  allowKey ((← get).flow = 0)
  dropKey
  read forward
  emit .key

/-- A colon: what stood at the possible key of this level is a key. -/
def fetchValue : Scan Unit := do
  let s ← get
  match s.keys.lookup s.flow with
  | some k =>
    set { s with
      keys := s.keys.filter (·.1 != s.flow)
      tokens := s.tokens.take k.number ++ Token.key :: s.tokens.drop k.number
      allowKey := false }
    if s.flow = 0 then openBlock k.column .blockMappingStart k.number
  | none =>
    openHere .blockMappingStart
    allowKey (s.flow = 0)
    dropKey
  read forward
  emit .value

/-- A token in front of which a key may start. -/
def fetchKeyed (r : Reader Token) : Scan Unit := do
  noteKey
  allowKey false
  emit (← read r)

def fetchBlockScalar (fold : Bool) : Scan Unit := do
  allowKey true
  dropKey
  let text ← read (blockScalar fold (← get).indent)
  emit (.scalar (String.ofList text) false)

def fetchPlain : Scan Unit := do
  noteKey
  let s ← get
  let (text, broken) ← read (plainScalar (s.flow ≠ 0) (s.indent + 1))
  allowKey broken
  emit (.scalar (String.ofList text) true)

/-- Whether a plain scalar may start with a character, given the next one. -/
def startsPlain (inFlow : Bool) (c : Char) (next : Option Char) : Bool :=
  !(isGap (some c) || "-?:,[]\x7b\x7d#&*!|>'\"%@`".toList.contains c) ||
    (!isGap next && (c == '-' || (!inFlow && (c == '?' || c == ':'))))

/-- The token that starts with a character. -/
def fetchAt (c : Char) : Scan Unit := do
  let s ← get
  let inFlow := s.flow ≠ 0
  let next := s.cursor.peek 1
  let marks := s.cursor.column = 0 ∧ isMarker s.cursor
  if c = '%' ∧ s.cursor.column = 0 then fetchDirective
  else if marks then fetchMarker (if c = '-' then .documentStart else .documentEnd)
  else if c = '[' then fetchFlowStart .flowSequenceStart
  else if c = '{' then fetchFlowStart .flowMappingStart
  else if c = ']' then fetchFlowEnd .flowSequenceEnd
  else if c = '}' then fetchFlowEnd .flowMappingEnd
  else if c = ',' then fetchFlowEntry
  else if c = '-' ∧ isGap next then fetchBlockEntry
  else if c = '?' ∧ (inFlow ∨ isGap next) then fetchKey
  else if c = ':' ∧ (inFlow ∨ isGap next) then fetchValue
  else if c = '*' then fetchKeyed (Token.alias <$> anchorName)
  else if c = '&' then fetchKeyed (Token.anchor <$> anchorName)
  else if c = '!' then fetchKeyed tagToken
  else if c = '|' ∧ !inFlow then fetchBlockScalar false
  else if c = '>' ∧ !inFlow then fetchBlockScalar true
  else if c = '\'' ∨ c = '"' then
    fetchKeyed ((fun t => Token.scalar (String.ofList t) false) <$> quotedScalar c)
  else if startsPlain inFlow c next then fetchPlain
  else failure

/-- All tokens to the end of the text. -/
def fetchAll : Nat → Scan Unit
  | 0 => failure
  | fuel + 1 => do
    skipToToken ((← get).cursor.rest.length + 1)
    dropStaleKeys
    unwind (← get).cursor.column
    match (← get).cursor.peek with
    | none =>
      unwind (-1)
      dropKey
    | some c =>
      fetchAt c
      fetchAll fuel

/-- The tokens of a text, if it consists of tokens. -/
def tokens? (text : List Char) : Option (List Token) :=
  if !text.all isPrintable then none
  else
    let start : Cursor := { rest := text }
    let start := if start.peek.map Char.toNat = some 0xfeff then start.next else start
    ((fetchAll (text.length + 2)).run { cursor := start }).map fun r => r.2.tokens

end ComponentLint.Yaml
