import ComponentLint.Script.Grammar.Declaration

/-!
Imports and exports.
-/

namespace ComponentLint.Script.Grammar

open Scan

/-- The name of an export: a name, a string, or the word `default`. -/
def exportName : Reader Node := do
  match ← upcoming with
  | '\'' :: _ | '"' :: _ => stringLiteral
  | s =>
    let name := nameAt s
    if name.isEmpty then failure
    if name = "default".toList then
      let start ← here
      take 7
      return .mk "default" start (← get).stop none false []
    leaf "identifier" name.length

/-- `from` and the source of a module. -/
def fromClause : Reader Node := do
  expectWord "from"
  return inField "source" (← stringLiteral)

/-- A name, and another one for it after `as`. -/
def specifier (kind : String) : Reader Node := do
  let start ← here
  let name ← exportName
  let other ← if ← acceptWord "as" then pure [inField "alias" (← exportName)] else pure []
  finish kind start (inField "name" name :: other)

def namedList (kind item : String) : Reader Node := do
  let start ← here
  expect "\x7b"
  finish kind start (← commaList "\x7d" (specifier item))

/-- `* as name`. -/
def namespaceOf (kind : String) : Reader Node := do
  let start ← here
  expect "*"
  expectWord "as"
  finish kind start [← exportName]

/-- The names an import binds. -/
def importClause : Reader Node := do
  let start ← here
  if ← isNext "*" then finish "import_clause" start [← namespaceOf "namespace_import"]
  else if ← isNext "\x7b" then
    finish "import_clause" start [← namedList "named_imports" "import_specifier"]
  else
    let default ← identifier
    if ← accept "," then
      let others ← if ← isNext "*" then namespaceOf "namespace_import"
        else namedList "named_imports" "import_specifier"
      finish "import_clause" start [default, others]
    else finish "import_clause" start [default]

def importStatement (r : Rules) : Reader Node := do
  let start ← here
  expectWord "import"
  let named ← match ← upcoming with
    | '\'' :: _ | '"' :: _ => do pure [inField "source" (← stringLiteral)]
    | _ => do
      let clause ← importClause
      pure [clause, ← fromClause]
  let begun ← here
  let word ← nextName
  let attributes ← if (word = "with" ∨ word = "assert") && !(← onNewLine) then do
      take word.length
      pure [← finish "import_attribute" begun [← object r]]
    else pure []
  semicolon false
  finish "import_statement" start (named ++ attributes)

/-- A declaration that is exported, if one comes next. -/
def exportedDeclaration? (r : Rules) (marks : List Node) (begun : Nat) : Reader (Option Node) := do
  let name ← nextName
  if name = "function" ∨ (← isAsyncFunctionNext) then return some (← function r true)
  else if name = "class" then return some (← classFrom r begun marks true)
  else if name = "var" ∨ name = "const" then return some (← declaration r name)
  else if ← declaresNext "let" then return some (← declaration r "let")
  else return none

def isDeclaration (n : Node) : Bool := Text.endsWith "_declaration".toList n.kind.toList

def exportDefault (r : Rules) (start : Nat) (marks : List Node) : Reader Node := do
  expectWord "default"
  let begun ← here
  let inner ← decorators r
  let name ← nextName
  let first ← if name = "function" ∨ (← isAsyncFunctionNext) then do pure (some (← function r true))
    else if name = "class" then do pure (some (← classFrom r begun inner true))
    else pure none
  match first with
  | some n =>
    if isDeclaration n then finish "export_statement" start (marks ++ [inField "declaration" n])
    else
      let value ← expressionFrom r true (← operand r (some n))
      semicolon true
      finish "export_statement" start (marks ++ [inField "value" value])
  | none =>
    let value ← r.expression true
    semicolon true
    finish "export_statement" start (marks ++ [inField "value" value])

def exportStatement (r : Rules) (start : Nat) (marks : List Node) : Reader Node := do
  expectWord "export"
  if ← isNext "*" then
    let names ← if ← lookahead (do
        expect "*"
        return (← nextName) == "as") then do pure [← namespaceOf "namespace_export"]
      else do
        expect "*"
        pure []
    let source ← fromClause
    semicolon false
    finish "export_statement" start (marks ++ names ++ [source])
  else if ← isNext "\x7b" then
    let clause ← namedList "export_clause" "export_specifier"
    let source ← if (← nextName) = "from" then do pure [← fromClause] else pure []
    semicolon false
    finish "export_statement" start (marks ++ [clause] ++ source)
  else if (← nextName) = "default" then exportDefault r start marks
  else
    let begun ← here
    let inner ← decorators r
    match ← exportedDeclaration? r inner begun with
    | some n => finish "export_statement" start (marks ++ [inField "declaration" n])
    | none => failure

end ComponentLint.Script.Grammar
