import ComponentLint.Script.Grammar.Operand

/-!
Expressions: binary operators by their strength, conditionals, assignments, and functions written
with an arrow.
-/

namespace ComponentLint.Script.Grammar

open Scan

/-! ### Operators -/

/-- Binary operators with their strengths; longer ones stand before their beginnings. -/
def binaryOperators : List (String × Nat) :=
  [(">>>", 8), ("===", 6), ("!==", 6), ("**", 11), ("<<", 8), (">>", 8), ("<=", 7), (">=", 7),
   ("==", 6), ("!=", 6), ("&&", 2), ("||", 1), ("??", 0), ("*", 10), ("/", 10), ("%", 10),
   ("+", 9), ("-", 9), ("<", 7), (">", 7), ("&", 5), ("^", 4), ("|", 3)]

/-- Assignment operators; longer ones stand before their beginnings. -/
def augmentedOperators : List String :=
  [">>>=", "**=", "<<=", ">>=", "&&=", "||=", "??=", "+=", "-=", "*=", "/=", "%=", "^=", "&=",
   "|="]

/-- The binary operator that comes next, with its strength. -/
def binaryOperator? (inAllowed : Bool) : Reader (Option (String × Nat)) := do
  let s ← upcoming
  let name ← nextName
  if name = "instanceof" ∨ (inAllowed ∧ name = "in") then return some (name, 7)
  else if augmentedOperators.any fun o => o.toList.isPrefixOf s then return none
  else return binaryOperators.find? fun o => o.1.toList.isPrefixOf s

/-- An operator waiting for its right operand. -/
structure Pending where
  left : Node
  operator : Node
  strength : Nat

def binaryNode (p : Pending) (right : Node) : Node :=
  .mk "binary_expression" p.left.start right.stop none true
    [inField "left" p.left, p.operator, inField "right" right]

/-- Completes the pending operators that bind before one of a strength; `**` binds to the right. -/
def reduce (strength : Nat) : List Pending → Node → List Pending × Node
  | [], n => ([], n)
  | p :: ps, n =>
    if strength < p.strength ∨ (strength = p.strength ∧ strength ≠ 11) then
      reduce strength ps (binaryNode p n)
    else (p :: ps, n)

/-- Completes all pending operators. -/
def reduceAll : List Pending → Node → Node
  | [], n => n
  | p :: ps, n => reduceAll ps (binaryNode p n)

/-- Binary operators and their operands. -/
def binaryFrom (r : Rules) (inAllowed : Bool) : Nat → List Pending → Node → Reader Node
  | 0, _, _ => failure
  | fuel + 1, pending, n => do
    match ← binaryOperator? inAllowed with
    | none => return reduceAll pending n
    | some (symbol, strength) =>
      let op ← mark "operator" symbol
      let (pending, left) := reduce strength pending n
      let right ← operand r none
      binaryFrom r inAllowed fuel (⟨left, op, strength⟩ :: pending) right

/-- An expression from its first operand on: binary operators, a conditional, an assignment. -/
def expressionFrom (r : Rules) (inAllowed : Bool) (first : Node) : Reader Node := do
  let s ← upcoming
  let start := first.start
  match augmentedOperators.find? fun o => o.toList.isPrefixOf s with
  | some symbol =>
    let op ← mark "operator" symbol
    let right ← r.expression inAllowed
    finish "augmented_assignment_expression" start
      [inField "left" first, op, inField "right" right]
  | none =>
    if s.head? = some '=' ∧ s[1]? ≠ some '=' ∧ s[1]? ≠ some '>' then
      expect "="
      let right ← r.expression inAllowed
      finish "assignment_expression" start
        [inField "left" (asPattern first), inField "right" right]
    else
      let n ← binaryFrom r inAllowed ((← get).rest.length + 1) [] first
      if (← isNext "?") && !(← isOptionalChainNext) then
        expect "?"
        let yes ← r.expression true
        expect ":"
        let no ← r.expression inAllowed
        finish "ternary_expression" start
          [inField "condition" n, inField "consequence" yes, inField "alternative" no]
      else return n

/-! ### Arrow functions -/

/-- The arrow and body after the parameters. -/
def arrowFrom (r : Rules) (inAllowed : Bool) (start : Nat) (ps : Node) : Reader Node := do
  expect "=>"
  let body ← if ← isNext "\x7b" then block r true else r.expression inAllowed
  finish "arrow_function" start [ps, inField "body" body]

def isArrowNext : Reader Bool := do
  return (← isNext "=>") && !(← onNewLine)

/-- Parentheses around parameters or an expression: the items, read as expressions. -/
def group (r : Rules) : Reader (Nat × List Node) := do
  let start ← here
  expect "("
  return (start, ← commaList ")" (listItem r))

/-- The items of parentheses as parameters. -/
def groupAsParameters (start stop : Nat) (items : List Node) : Node :=
  .mk "formal_parameters" start stop (some "parameters") true (asPatterns items)

/-- The items of parentheses as an expression in parentheses. -/
def groupAsExpression (start stop : Nat) (items : List Node) : Option Node :=
  match items with
  | [] => none
  | [e] => some (.mk "parenthesized_expression" start stop none true [e])
  | e :: es =>
    let last := (es.getLast?.getD e).stop
    some (.mk "parenthesized_expression" start stop none true
      [.mk "sequence_expression" e.start last none true (e :: es)])

/-- An expression that begins with a parenthesis. -/
def fromGroup (r : Rules) (inAllowed : Bool) : Reader Node := do
  let (start, items) ← group r
  let stop := (← get).stop
  if ← isArrowNext then arrowFrom r inAllowed start (groupAsParameters start stop items)
  else match groupAsExpression start stop items with
    | none => failure
    | some n => expressionFrom r inAllowed (← operand r (some n))

/-- An expression that begins with the name `async`, other than an asynchronous function. -/
def fromAsync (r : Rules) (inAllowed : Bool) : Reader Node := do
  let start ← here
  let async ← leaf "identifier" 5
  if !(← onNewLine) && (← isIdentifierNext) && (← lookahead (do
      let _ ← identifier
      isArrowNext)) then
    arrowFrom r inAllowed start (inField "parameter" (← identifier))
  else if !(← onNewLine) && (← isNext "(") then
    let (begun, items) ← group r
    let stop := (← get).stop
    if ← isArrowNext then arrowFrom r inAllowed start (groupAsParameters begun stop items)
    else
      let args : Node := .mk "arguments" begun stop (some "arguments") true items
      let call ← finish "call_expression" start [inField "function" async, args]
      expressionFrom r inAllowed (← operand r (some call))
  else if ← isArrowNext then arrowFrom r inAllowed start (inField "parameter" async)
  else expressionFrom r inAllowed (← operand r (some async))

/-- `yield`, with an operand where one starts on the same line. -/
def yieldExpression (r : Rules) (inAllowed : Bool) : Reader Node := do
  let start ← here
  expectWord "yield"
  if ← onNewLine then finish "yield_expression" start []
  else if ← accept "*" then finish "yield_expression" start [← r.expression inAllowed]
  else if ← startsOperand then finish "yield_expression" start [← r.expression inAllowed]
  else finish "yield_expression" start []

def expression (r : Rules) (inAllowed : Bool) : Reader Node := do
  beginOperand
  if ← isNext "(" then fromGroup r inAllowed
  else
    let name ← nextName
    if name = "yield" then yieldExpression r inAllowed
    else if name = "async" then
      if ← isAsyncFunctionNext then expressionFrom r inAllowed (← operand r none)
      else fromAsync r inAllowed
    else if (← isIdentifierNext) && (← lookahead (do
        let _ ← identifier
        isArrowNext)) then
      let start ← here
      arrowFrom r inAllowed start (inField "parameter" (← identifier))
    else expressionFrom r inAllowed (← operand r none)

end ComponentLint.Script.Grammar
