import ComponentLint.Script.Grammar.Definition
import ComponentLint.Script.Grammar.Element

/-!
Operands of expressions: literals, objects and arrays, accesses and calls, and the operators that
stand before or after one operand.
-/

namespace ComponentLint.Script.Grammar

open Scan

/-! ### Objects and arrays -/

/-- A member of an object literal. A name with a default is only meant as a pattern. -/
def objectMember (r : Rules) : Reader Node := do
  let start ← here
  if ← isNext "..." then spread r
  else
    let modified ← methodModifiers
    let name ← nextName
    let key ← propertyName r
    if modified || (← isNext "(") then methodFrom r start [] key
    else if ← accept ":" then
      let value ← r.expression true
      finish "pair" start [inField "key" key, inField "value" value]
    else if name = "" then failure
    else if ← accept "=" then
      let short : Node :=
        .mk "shorthand_property_identifier_pattern" key.start key.stop none true []
      let value ← r.expression true
      finish "object_assignment_pattern" start [inField "left" short, inField "right" value]
    else return .mk "shorthand_property_identifier" key.start key.stop none true []

def object (r : Rules) : Reader Node := do
  let start ← here
  expect "\x7b"
  finish "object" start (← commaList "\x7d" (objectMember r))

def array (r : Rules) : Reader Node := do
  let start ← here
  expect "["
  finish "array" start (← commaList "]" (listItem r))

/-! ### Accesses and calls -/

/-- The property after a point. -/
def memberName : Reader Node := do
  match ← upcoming with
  | '#' :: rest => leaf "private_property_identifier" (1 + (nameAt rest).length)
  | s =>
    let name := nameAt s
    if name.isEmpty then failure
    leaf "property_identifier" name.length

/-- The index in brackets. -/
def index (r : Rules) : Reader Node := do
  expect "["
  let e ← expressions r
  expect "]"
  return inField "index" e

/-- The `?.` of an optional access. -/
def optionalChain : Reader Node := do
  return inField "optional_chain" (← leaf "optional_chain" 2)

/-- Whether `?.` comes next and is not the start of a conditional on a fraction. -/
def isOptionalChainNext : Reader Bool := do
  match ← upcoming with
  | '?' :: '.' :: c :: _ => return !Text.isAsciiDigit c
  | _ => return false

/-- One more access to what has been read, if there is one; calls only where they are allowed. -/
def access (r : Rules) (start : Nat) (calls : Bool) (target : Node) : Reader (Option Node) := do
  if calls && (← isOptionalChainNext) then
    let chain ← optionalChain
    if ← isNext "(" then
      let args ← callArguments r
      return some (← finish "call_expression" start
        [inField "function" target, chain, inField "arguments" args])
    else if ← isNext "[" then
      let i ← index r
      return some (← finish "subscript_expression" start [inField "object" target, chain, i])
    else
      let name ← memberName
      return some (← finish "member_expression" start
        [inField "object" target, chain, inField "property" name])
  else if (← isNext ".") && !(← isNext "..") then
    expect "."
    let name ← memberName
    return some (← finish "member_expression" start
      [inField "object" target, inField "property" name])
  else if ← isNext "[" then
    let i ← index r
    return some (← finish "subscript_expression" start [inField "object" target, i])
  else if ← isNext "`" then
    let t ← template r
    return some (← finish "call_expression" start
      [inField "function" target, inField "arguments" t])
  else if calls && (← isNext "(") then
    let args ← callArguments r
    return some (← finish "call_expression" start
      [inField "function" target, inField "arguments" args])
  else return none

/-- All accesses to what has been read. -/
def accessesFrom (r : Rules) (start : Nat) (calls : Bool) : Nat → Node → Reader Node
  | 0, target => return target
  | fuel + 1, target => do
    match ← access r start calls target with
    | some next => accessesFrom r start calls fuel next
    | none => return target

def accesses (r : Rules) (start : Nat) (calls : Bool) (target : Node) : Reader Node := do
  accessesFrom r start calls ((← get).rest.length + 1) target

/-! ### Operands -/

/-- Words that are values or references by themselves. -/
def wordKinds : List String := ["this", "super", "null", "true", "false", "undefined"]

/-- An expression that begins with a word other than `new`. -/
def wordOperand (r : Rules) (name : String) : Reader Node := do
  if name = "function" then function r false
  else if name = "class" then classFrom r (← here) [] false
  else if ← isAsyncFunctionNext then function r false
  else if wordKinds.contains name then leaf name name.length
  else if name = "import" then
    let start ← here
    let keyword ← leaf "import" 6
    if (← isNext ".") && (← lookahead (do
        expect "."
        return (← nextName) == "meta")) then
      expect "."
      expectWord "meta"
      finish "meta_property" start []
    else return keyword
  else identifier

/-- An operand without accesses, other than `new`. -/
def simpleOperand (r : Rules) : Reader Node := do
  beginOperand
  match ← upcoming with
  | '(' :: _ => parenthesized r
  | '[' :: _ => array r
  | '{' :: _ => object r
  | '`' :: _ => template r
  | '/' :: _ => regexLiteral
  | '<' :: _ => r.element
  | '\'' :: _ | '"' :: _ => stringLiteral
  | '@' :: _ =>
    let start ← here
    let marks ← decorators r
    classFrom r start marks false
  | '#' :: rest => leaf "private_property_identifier" (1 + (nameAt rest).length)
  | s =>
    let name := nameAt s
    if !name.isEmpty then wordOperand r (String.ofList name)
    else
      let n := numberLength s
      if n = 0 ∨ s.head? = some '.' ∧ n = 1 then failure
      leaf "number" n

/-- The starts of the words `new` that come next, the last one first. -/
def newStarts (fuel : Nat) (starts : List Nat) : Reader (List Nat) :=
  match fuel with
  | 0 => return starts
  | fuel + 1 => do
    let start ← here
    let isTarget ← lookahead (do
      if ← acceptWord "new" then isNext "." else return true)
    if isTarget then return starts
    expectWord "new"
    newStarts fuel (start :: starts)

/-- Wraps an operand in its `new` expressions, the innermost first. -/
def wrapNew (r : Rules) (target : Node) (begun : Nat) : List Nat → Reader Node
  | [] => return target
  | start :: outer => do
    let constructor ← accesses r begun false target
    let args ← if ← isNext "(" then pure [inField "arguments" (← callArguments r)] else pure []
    let node ← finish "new_expression" start (inField "constructor" constructor :: args)
    wrapNew r node start outer

/-- An operand with its accesses and calls. -/
def accessedOperand (r : Rules) (known : Option Node) : Reader Node := do
  match known with
  | some n => accesses r n.start true n
  | none =>
    beginOperand
    let start ← here
    let starts ← newStarts ((← get).rest.length + 1) []
    let base ← if (← nextName) = "new" then do
        let begun ← here
        expectWord "new"
        expect "."
        expectWord "target"
        finish "meta_property" begun []
      else simpleOperand r
    let n ← wrapNew r base base.start starts
    accesses r start true n

/-- A prefix operator that has been read. -/
inductive Prefix where
  | unary (start : Nat) (operator : Node)
  | update (start : Nat) (operator : Node)
  | await (start : Nat)

/-- Whether the next token can start an operand on the same line. -/
def startsOperand : Reader Bool := do
  match ← upcoming with
  | [] => return false
  | c :: _ =>
    let name ← nextName
    return !(")]\x7d,;:=.?*%<>&|^".toList.contains c) &&
      !(["in", "of", "instanceof"].contains name)

/-- The prefix operators that come next, the last one first. -/
def prefixes (fuel : Nat) (found : List Prefix) : Reader (List Prefix) :=
  match fuel with
  | 0 => return found
  | fuel + 1 => do
    beginOperand
    let start ← here
    match ← upcoming with
    | '+' :: '+' :: _ => prefixes fuel (.update start (← mark "operator" "++") :: found)
    | '-' :: '-' :: _ => prefixes fuel (.update start (← mark "operator" "--") :: found)
    | '+' :: _ => prefixes fuel (.unary start (← mark "operator" "+") :: found)
    | '-' :: _ => prefixes fuel (.unary start (← mark "operator" "-") :: found)
    | '!' :: _ => prefixes fuel (.unary start (← mark "operator" "!") :: found)
    | '~' :: _ => prefixes fuel (.unary start (← mark "operator" "~") :: found)
    | _ =>
      let name ← nextName
      if name = "typeof" ∨ name = "void" ∨ name = "delete" then
        prefixes fuel (.unary start (← mark "operator" name) :: found)
      else if name = "await" then
        let awaits ← lookahead (do
          take 5
          return (← startsOperand) && !(← isNext "=>"))
        if awaits then
          take 5
          prefixes fuel (.await start :: found)
        else return found
      else return found

/-- Puts prefix operators around an operand, the innermost first. -/
def wrapPrefixes (operand : Node) : List Prefix → Reader Node
  | [] => return operand
  | p :: outer => do
    let node ← match p with
      | .unary start op => finish "unary_expression" start [op, inField "argument" operand]
      | .update start op => finish "update_expression" start [op, inField "argument" operand]
      | .await start => finish "await_expression" start [operand]
    wrapPrefixes node outer

/-- An operand with its prefix and postfix operators; a first part that has been read already may
be given. -/
def operand (r : Rules) (known : Option Node) : Reader Node := do
  let ps ← if known.isSome then pure [] else prefixes ((← get).rest.length + 1) []
  let target ← accessedOperand r known
  let updated ← if ← onNewLine then pure target
    else if (← isNext "++") || (← isNext "--") then do
      let op ← mark "operator" (if ← isNext "++" then "++" else "--")
      finish "update_expression" target.start [inField "argument" target, op]
    else pure target
  wrapPrefixes updated ps

end ComponentLint.Script.Grammar
