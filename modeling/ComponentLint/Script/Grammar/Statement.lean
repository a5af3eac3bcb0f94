import ComponentLint.Script.Grammar.Module

/-!
Statements.
-/

namespace ComponentLint.Script.Grammar

open Scan

/-! ### Loops -/

/-- The rest of a loop over a collection. -/
def forInFrom (r : Rules) (start : Nat) (left : List Node) : Reader Node := do
  let op ← mark "operator" (← nextName)
  let right ← expressions r
  expect ")"
  let body ← r.statement
  finish "for_in_statement" start
    (left ++ [op, inField "right" right, inField "body" body])

def isForInNext : Reader Bool := do
  let name ← nextName
  return name = "in" ∨ name = "of"

/-- An empty statement, which is a semicolon. -/
def emptyStatement : Reader Node := leaf "empty_statement" 1

/-- The rest of a counting loop after its first part. -/
def forFrom (r : Rules) (start : Nat) (initializer : Node) : Reader Node := do
  let condition ← if ← isNext ";" then emptyStatement else do
    let c ← expressions r
    expect ";"
    pure c
  let increment ← if ← isNext ")" then pure [] else do
    pure [inField "increment" (← expressions r)]
  expect ")"
  let body ← r.statement
  finish "for_statement" start
    ([inField "initializer" initializer, inField "condition" condition] ++ increment ++
      [inField "body" body])

/-- A loop whose first part declares. -/
def forDeclaring (r : Rules) (start : Nat) (word : String) : Reader Node := do
  let begun ← here
  let kind ← mark "kind" word
  let target ← bindingTarget r
  if ← isForInNext then forInFrom r start [kind, inField "left" target]
  else
    let valued ← accept "="
    let value ← if valued then pure [inField "value" (← r.expression false)] else pure []
    if ← isForInNext then forInFrom r start ([kind, inField "left" target] ++ value)
    else
      let first ← finish "variable_declarator" target.start (inField "name" target :: value)
      let (ds, _) ← moreDeclarators r false (first, valued)
      expect ";"
      let marks := if word = "var" then [] else [kind]
      let initializer ← finish (declarationKind word) begun (marks ++ ds)
      forFrom r start initializer

def forStatement (r : Rules) : Reader Node := do
  let start ← here
  expectWord "for"
  let _ ← acceptWord "await"
  expect "("
  beginOperand
  let name ← nextName
  if name = "var" ∨ name = "const" then forDeclaring r start name
  else if ← declaresNext "let" then forDeclaring r start "let"
  else if ← declaresNext "using" then forDeclaring r start "using"
  else if ← isNext ";" then forFrom r start (← emptyStatement)
  else
    let first ← expressions r false
    if ← isForInNext then forInFrom r start [inField "left" (asPattern first)]
    else
      expect ";"
      forFrom r start first

/-! ### Statements -/

def expressionStatement (r : Rules) : Reader Node := do
  let start ← here
  let e ← expressions r
  semicolon true
  finish "expression_statement" start [e]

def ifStatement (r : Rules) : Reader Node := do
  let start ← here
  expectWord "if"
  let condition ← parenthesized r
  let consequence ← r.statement
  let begun ← here
  let otherwise ← if ← acceptWord "else" then do
      let s ← r.statement
      pure [inField "alternative" (← finish "else_clause" begun [s])]
    else pure []
  finish "if_statement" start
    ([inField "condition" condition, inField "consequence" consequence] ++ otherwise)

def whileStatement (r : Rules) : Reader Node := do
  let start ← here
  expectWord "while"
  let condition ← parenthesized r
  let body ← r.statement
  finish "while_statement" start [inField "condition" condition, inField "body" body]

def withStatement (r : Rules) : Reader Node := do
  let start ← here
  expectWord "with"
  let target ← parenthesized r
  let body ← r.statement
  finish "with_statement" start [inField "object" target, inField "body" body]

def doStatement (r : Rules) : Reader Node := do
  let start ← here
  expectWord "do"
  let body ← r.statement
  expectWord "while"
  let condition ← parenthesized r
  let _ ← accept ";"
  finish "do_statement" start [inField "body" body, inField "condition" condition]

/-- The statements of one case, up to the next case or the end. -/
def caseBody (r : Rules) : Reader (List Node) :=
  many (do
    beginOperand
    let name ← nextName
    if name = "case" ∨ name = "default" ∨ (← isNext "\x7d") then return none
    else return some (inField "body" (← r.statement)))

def switchCase (r : Rules) : Reader Node := do
  let start ← here
  if ← acceptWord "default" then
    expect ":"
    finish "switch_default" start (← caseBody r)
  else
    expectWord "case"
    let value ← expressions r
    expect ":"
    let body ← caseBody r
    finish "switch_case" start (inField "value" value :: body)

def switchStatement (r : Rules) : Reader Node := do
  let start ← here
  expectWord "switch"
  let value ← parenthesized r
  let begun ← here
  expect "\x7b"
  let cases ← many (do
    if ← accept "\x7d" then return none else return some (← switchCase r))
  let body ← finish "switch_body" begun cases
  finish "switch_statement" start [inField "value" value, inField "body" body]

def catchClause (r : Rules) : Reader Node := do
  let start ← here
  expectWord "catch"
  let parameter ← if ← accept "(" then do
      let p ← bindingTarget r
      expect ")"
      pure [inField "parameter" p]
    else pure []
  let body ← block r
  finish "catch_clause" start (parameter ++ [inField "body" body])

def tryStatement (r : Rules) : Reader Node := do
  let start ← here
  expectWord "try"
  let body ← block r
  let handler ← if (← nextName) = "catch" then do pure [inField "handler" (← catchClause r)]
    else pure []
  let begun ← here
  let finalizer ← if ← acceptWord "finally" then do
      let b ← block r
      pure [inField "finalizer" (← finish "finally_clause" begun [inField "body" b])]
    else pure []
  finish "try_statement" start (inField "body" body :: handler ++ finalizer)

/-- Whether the statement ends right after its word. -/
def endsAfterWord : Reader Bool := do
  let s ← get
  return endsHere false (s.rest.length + 1) s.rest || (← isNext ";")

/-- `break` or `continue` with an optional label. -/
def jumpStatement (word : String) : Reader Node := do
  let start ← here
  expectWord word
  let label ← if ← endsAfterWord then pure [] else do
    let name ← nextName
    pure [inField "label" (← leaf "statement_identifier" name.length)]
  semicolon false
  finish (word ++ "_statement") start label

def returnStatement (r : Rules) : Reader Node := do
  let start ← here
  expectWord "return"
  if ← endsAfterWord then
    semicolon false
    finish "return_statement" start []
  else
    let e ← expressions r
    semicolon true
    finish "return_statement" start [e]

def throwStatement (r : Rules) : Reader Node := do
  let start ← here
  expectWord "throw"
  let e ← expressions r
  semicolon true
  finish "throw_statement" start [e]

def labeledStatement (r : Rules) (name : String) : Reader Node := do
  let start ← here
  let label ← leaf "statement_identifier" name.length
  expect ":"
  let body ← r.statement
  finish "labeled_statement" start [inField "label" label, inField "body" body]

/-- Whether a name and a colon come next. -/
def isLabelNext : Reader Bool := do
  if !(← isIdentifierNext) then return false
  lookahead (do
    let _ ← identifier
    isNext ":")

/-- A statement that begins with a name or a keyword. -/
def wordStatement (r : Rules) (name : String) : Reader Node := do
  match name with
  | "if" => ifStatement r
  | "for" => forStatement r
  | "while" => whileStatement r
  | "do" => doStatement r
  | "switch" => switchStatement r
  | "try" => tryStatement r
  | "with" => withStatement r
  | "return" => returnStatement r
  | "throw" => throwStatement r
  | "break" => jumpStatement "break"
  | "continue" => jumpStatement "continue"
  | "debugger" =>
    let start ← here
    take 8
    semicolon false
    finish "debugger_statement" start []
  | "var" => declaration r "var"
  | "const" => declaration r "const"
  | "function" => function r true
  | "class" => classFrom r (← here) [] true
  | "export" => exportStatement r (← here) []
  | "import" =>
    if ← lookahead (do
        take 6
        return (← isNext "(") || (← isNext ".")) then expressionStatement r
    else importStatement r
  | _ =>
    if ← declaresNext "let" then declaration r "let"
    else if ← declaresNext "using" then declaration r "using"
    else if ← isAsyncFunctionNext then function r true
    else if ← isLabelNext then labeledStatement r name
    else expressionStatement r

def statement (r : Rules) : Reader Node := do
  beginOperand
  match ← upcoming with
  | '{' :: _ => block r
  | ';' :: _ => emptyStatement
  | '@' :: _ =>
    let start ← here
    let marks ← decorators r
    if (← nextName) = "export" then exportStatement r start marks else classFrom r start marks true
  | s =>
    let name := nameAt s
    if name.isEmpty then expressionStatement r else wordStatement r (String.ofList name)

end ComponentLint.Script.Grammar
