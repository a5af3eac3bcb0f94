import ComponentLint.Script.Grammar.Pattern

/-!
Functions, methods and classes.
-/

namespace ComponentLint.Script.Grammar

open Scan

/-- The rest of a function from the word `function` on. Without a name it is an expression; a
declaration has one. -/
def functionFrom (r : Rules) (start : Nat) (declares : Bool) : Reader Node := do
  expectWord "function"
  let generator ← accept "*"
  let name ← if ← isIdentifierNext then pure [inField "name" (← identifier)] else pure []
  let ps ← parameters r
  let declaration := declares && !name.isEmpty
  let body ← block r !declaration
  let kind := match generator, declaration with
    | false, false => "function_expression"
    | false, true => "function_declaration"
    | true, false => "generator_function"
    | true, true => "generator_function_declaration"
  finish kind start (name ++ [inField "parameters" ps, inField "body" body])

/-- Whether `async` and `function` come next on one line. -/
def isAsyncFunctionNext : Reader Bool := do
  if (← nextName) ≠ "async" then return false
  lookahead (do
    take 5
    return (← nextName) = "function" ∧ !(← onNewLine))

def function (r : Rules) (declares : Bool) : Reader Node := do
  let start ← here
  let _ ← acceptWord "async"
  functionFrom r start declares

/-- What a word may stand in front of as a modifier: another property name. -/
def isPropertyNameNext : Reader Bool := do
  match ← upcoming with
  | c :: _ => return !("(,:;=\x7d)".toList.contains c)
  | [] => return false

/-- Takes a word as a modifier of a member, if that is what it is. -/
def acceptModifier (word : String) : Reader Bool := do
  if (← nextName) ≠ word then return false
  let modifies ← lookahead (do
    take word.length
    isPropertyNameNext)
  if modifies then take word.length
  return modifies

/-- The modifiers of a method: `async`, then `get`, `set` or a star. -/
def methodModifiers : Reader Bool := do
  let async ← acceptModifier "async"
  let get ← acceptModifier "get"
  let set ← if get then pure false else acceptModifier "set"
  let star ← if get || set then pure false else accept "*"
  return async || get || set || star

def methodFrom (r : Rules) (start : Nat) (decorators : List Node) (name : Node) : Reader Node := do
  let ps ← parameters r
  let body ← block r
  finish "method_definition" start
    (decorators ++ [inField "name" name, inField "parameters" ps, inField "body" body])

/-- A decorator: a name, a chain of members, a call of one, or an expression in parentheses. -/
def decorator (r : Rules) : Reader Node := do
  let start ← here
  expect "@"
  if ← isNext "(" then finish "decorator" start [← parenthesized r]
  else
    let begun ← here
    let first ← identifier
    let names ← many (do
      if ← accept "." then
        let name ← nextName
        return some (← leaf "property_identifier" name.length)
      else return none)
    let chain := memberChain first names
    if ← isNext "(" then
      let args ← callArguments r
      let call ← finish "call_expression" begun [inField "function" chain, inField "arguments" args]
      finish "decorator" start [call]
    else finish "decorator" start [chain]

def decorators (r : Rules) : Reader (List Node) :=
  many (do
    if ← isNext "@" then return some (inField "decorator" (← decorator r)) else return none)

/-- One member of a class. -/
def classMember (r : Rules) : Reader Node := do
  let start ← here
  let marks ← decorators r
  let static ← acceptModifier "static"
  if static && (← isNext "\x7b") then
    let body ← block r
    finish "class_static_block" start [inField "body" body]
  else
    let _ ← methodModifiers
    let name ← propertyName r
    if ← isNext "(" then
      let method ← methodFrom r start marks name
      let _ ← accept ";"
      return method
    else
      let value ← if ← accept "=" then pure [inField "value" (← r.expression true)] else pure []
      let field ← finish "field_definition" start (marks ++ inField "property" name :: value)
      semicolon !value.isEmpty
      return field

def classBody (r : Rules) : Reader Node := do
  let start ← here
  expect "\x7b"
  let members ← many (do
    if ← accept "\x7d" then return none
    else if ← accept ";" then return some []
    else return some [inField "member" (← classMember r)])
  finish "class_body" start members.flatten

/-- A class from its decorators on; a declaration has a name. -/
def classFrom (r : Rules) (start : Nat) (marks : List Node) (declares : Bool) : Reader Node := do
  expectWord "class"
  let name ← if ← isIdentifierNext then pure [inField "name" (← identifier)] else pure []
  let begun ← here
  let heritage ← if ← acceptWord "extends" then
      pure [← finish "class_heritage" begun [← r.expression true]] else pure []
  let body ← classBody r
  finish (if declares && !name.isEmpty then "class_declaration" else "class") start
    (marks ++ name ++ heritage ++ [inField "body" body])

end ComponentLint.Script.Grammar
