import ComponentLint.Script.Grammar.Basic

/-!
Markup written inside scripts: elements with attributes and, between their tags, text, character
references, further elements and expressions in braces.
-/

namespace ComponentLint.Script.Grammar

open Scan

/-! ### Names -/

/-- Characters of a name with dashes. -/
def isDashedPart (c : Char) : Bool :=
  Text.isAsciiLetter c || Text.isAsciiDigit c || c == '_' || c == '$' || c == '-'

/-- The length of a name, which may have dashes; zero where there is none. -/
def dashedLength (s : List Char) : Nat :=
  let name := nameAt s
  if !name.isEmpty && (s.drop name.length).head? == some '-' then (s.takeWhile isDashedPart).length
  else name.length

def dashedName (kind : String) : Reader Node := do
  let n := dashedLength (← upcoming)
  if n = 0 then failure
  leaf kind n

/-- The second part of a name, after a colon, if there is one. -/
def inNamespace (first : Node) : Reader (Option Node) := do
  if !(← accept ":") then return none
  let second ← dashedName "identifier"
  return some (← finish "jsx_namespace_name" first.start [first, second])

/-- The name of an element: a name, one in a namespace, or a chain of members. -/
def elementName : Reader Node := do
  let first ← dashedName "identifier"
  match ← inNamespace first with
  | some name => return name
  | none =>
    return memberChain first (← many (do
      if ← accept "." then return some (← dashedName "property_identifier") else return none))

def attributeName : Reader Node := do
  let first ← dashedName "identifier"
  match ← inNamespace first with
  | some name => return name
  | none => return .mk "property_identifier" first.start first.stop none true []

/-! ### Text -/

/-- The length of a character reference; zero where there is none. -/
def referenceLength : List Char → Nat
  | '&' :: s =>
    let (lead, digits, limit) := match s with
      | '#' :: x :: rest =>
        if x = 'x' ∨ x = 'X' then (2, rest.takeWhile isHex, 6)
        else (1, (x :: rest).takeWhile Text.isAsciiDigit, 5)
      | _ => (0, s.takeWhile Text.isAsciiLetter, 30)
    let n := lead + digits.length
    if digits ≠ [] ∧ digits.length ≤ limit ∧ (s.drop n).head? = some ';' then n + 2 else 0
  | _ => 0

def reference : Reader Node := do
  let n := referenceLength (← get).rest
  if n = 0 then failure
  leafHere "html_character_reference" n

/-- The length of the text in a quoted value up to its end or a reference. -/
def quotedLength (quote : Char) : List Char → Nat
  | [] => 0
  | c :: cs =>
    let refers := match cs with
      | d :: _ => d == '#' || Text.isAsciiLetter d
      | [] => false
    if c == quote || (c == '&' && refers) then 0 else 1 + quotedLength quote cs

/-- A quoted value, in which a backslash has no meaning. -/
def quotedValue (quote : Char) : Reader Node := do
  let start ← here
  take 1
  let parts ← many (do
    let s := (← get).rest
    if s.head? = some quote then
      takeHere 1
      return none
    let n := quotedLength quote s
    if n = 0 then return some (← reference) else return some (← leafHere "string_fragment" n))
  finish "string" start parts

/-- Whether text between tags counts: blanks from a line end on do not. -/
def isShown : Bool → List Char → Bool
  | _, [] => false
  | afterLineEnd, c :: cs =>
    if c == '\n' || (afterLineEnd && isPlainBlank c) then isShown true cs else true

/-! ### Elements -/

/-- An expression in braces, which may be spread or left out. -/
def braced (r : Rules) : Reader Node := do
  let start ← here
  expect "\x7b"
  if ← accept "\x7d" then finish "jsx_expression" start []
  else
    let e ← if ← isNext "..." then spread r else expressions r
    expect "\x7d"
    finish "jsx_expression" start [e]

def elementAttribute (r : Rules) : Reader Node := do
  let start ← here
  let name ← attributeName
  if !(← accept "=") then finish "jsx_attribute" start [name]
  else
    let value ← match ← upcoming with
      | '"' :: _ => quotedValue '"'
      | '\'' :: _ => quotedValue '\''
      | '{' :: _ => braced r
      | _ => r.element
    finish "jsx_attribute" start [name, value]

def elementAttributes (r : Rules) : Reader (List Node) :=
  many (do
    if ← isNext "\x7b" then return some (inField "attribute" (← braced r))
    else if dashedLength (← upcoming) = 0 then return none
    else return some (inField "attribute" (← elementAttribute r)))

/-- What stands between the tags of an element. -/
def elementContent (r : Rules) : Reader (List Node) :=
  many (do
    let text := (← get).rest.takeWhile fun c => !"<>&\x7b\x7d".toList.contains c
    if isShown false text then return some (← leafHere "jsx_text" text.length)
    modify (·.forward text.length)
    match (← get).rest with
    | '<' :: '/' :: _ => return none
    | '<' :: _ => return some (← r.element)
    | '{' :: _ => return some (← braced r)
    | _ => return some (← reference))

def closingTag : Reader Node := do
  let start ← here
  expect "</"
  if ← accept ">" then finish "jsx_closing_element" start []
  else
    let name ← elementName
    expect ">"
    finish "jsx_closing_element" start [inField "name" name]

/-- The rest of an element after its opening tag. -/
def elementFrom (r : Rules) (opening : Node) : Reader Node := do
  let content ← elementContent r
  let closing ← closingTag
  finish "jsx_element" opening.start
    (inField "open_tag" opening :: content ++ [inField "close_tag" closing])

/-- An element, or its content alone between tags without a name. -/
def element (r : Rules) : Reader Node := do
  let start ← here
  expect "<"
  if ← accept ">" then elementFrom r (← finish "jsx_opening_element" start [])
  else
    let name ← elementName
    let parts := inField "name" name :: (← elementAttributes r)
    if ← accept "/>" then finish "jsx_self_closing_element" start parts
    else
      expect ">"
      elementFrom r (← finish "jsx_opening_element" start parts)

end ComponentLint.Script.Grammar
