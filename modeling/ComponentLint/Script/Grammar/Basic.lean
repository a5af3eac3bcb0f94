import ComponentLint.Script.Scan

/-!
The rules of the grammar that contain themselves, and what all others share: names, lists of
expressions and blocks. Every construct reads its tokens and gives a syntax node.
-/

namespace ComponentLint.Script.Grammar

open Scan

/-- The constructs that contain themselves. An expression is read up to a comma; without `in`
where that word ends it. -/
structure Rules where
  statement : Reader Node
  expression : Bool → Reader Node
  pattern : Reader Node
  element : Reader Node

/-- Words that cannot be names. -/
def reserved : List String :=
  ["break", "case", "catch", "class", "const", "continue", "debugger", "default", "delete", "do",
   "else", "export", "extends", "false", "finally", "for", "function", "if", "import", "in",
   "instanceof", "new", "null", "return", "super", "switch", "this", "throw", "true", "try",
   "typeof", "var", "void", "while", "with"]

/-! ### Names and lists -/

/-- A name that can be a variable. -/
def identifier : Reader Node := do
  let name ← nextName
  if name = "" ∨ reserved.contains name then failure
  leaf "identifier" name.length

/-- Whether a variable name comes next. -/
def isIdentifierNext : Reader Bool := do
  let name ← nextName
  return name ≠ "" ∧ !reserved.contains name

/-- A name and the members named after it. -/
def memberChain : Node → List Node → Node
  | object, [] => object
  | object, property :: rest =>
    memberChain (.mk "member_expression" object.start property.stop none true
      [inField "object" object, inField "property" property]) rest

/-- Expressions separated by commas, as one node if there are several. -/
def expressions (r : Rules) (inAllowed : Bool := true) : Reader Node := do
  let start ← here
  let first ← r.expression inAllowed
  if !(← isNext ",") then return first
  let others ← many (do
    if ← accept "," then return some (← r.expression inAllowed) else return none)
  finish "sequence_expression" start (first :: others)

def spread (r : Rules) : Reader Node := do
  let start ← here
  expect "..."
  finish "spread_element" start [← r.expression true]

/-- An expression or a spread one. -/
def listItem (r : Rules) : Reader Node := do
  if ← isNext "..." then spread r else r.expression true

def callArguments (r : Rules) : Reader Node := do
  let start ← here
  expect "("
  let items ← commaList ")" (listItem r)
  finish "arguments" start items

def parenthesized (r : Rules) : Reader Node := do
  let start ← here
  expect "("
  let e ← expressions r
  expect ")"
  finish "parenthesized_expression" start [e]

def template (r : Rules) : Reader Node := templateLiteral (expressions r)

/-- A block of statements; one that ends an expression may take in the comments after it. -/
def block (r : Rules) (afterExpression : Bool := false) : Reader Node := do
  let start ← here
  expect "\x7b"
  let body ← many (do
    beginOperand
    if ← accept "\x7d" then return none else return some (← r.statement))
  endBlock afterExpression
  finish "statement_block" start body

end ComponentLint.Script.Grammar
