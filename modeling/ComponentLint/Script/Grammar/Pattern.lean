import ComponentLint.Script.Grammar.Basic

/-!
Patterns: what a declaration or a parameter binds and what an assignment can fill. What turns out
to be a target or a parameter list is first read as an expression and then turned into a pattern.
-/

namespace ComponentLint.Script.Grammar

open Scan

/-! ### Patterns from expressions -/

mutual

/-- An expression as the pattern it is written like. -/
def asPattern : Node → Node
  | .mk kind start stop field named children =>
    match kind with
    | "array" => .mk "array_pattern" start stop field named (asPatterns children)
    | "object" => .mk "object_pattern" start stop field named (asPatterns children)
    | "spread_element" => .mk "rest_pattern" start stop field named (asPatterns children)
    | "pair" => .mk "pair_pattern" start stop field named (valueAsPattern children)
    | "assignment_expression" => .mk "assignment_pattern" start stop field named children
    | "shorthand_property_identifier" =>
      .mk "shorthand_property_identifier_pattern" start stop field named children
    | _ => .mk kind start stop field named children

def asPatterns : List Node → List Node
  | [] => []
  | n :: ns => asPattern n :: asPatterns ns

/-- The value of a pair as a pattern, its key as it is. -/
def valueAsPattern : List Node → List Node
  | [] => []
  | n :: ns => (if n.field = some "value" then asPattern n else n) :: valueAsPattern ns

end

/-! ### Binding patterns -/

/-- The name of a property: a name, a private name, a string, a numeral or a computed one. -/
def propertyName (r : Rules) : Reader Node := do
  match ← upcoming with
  | '[' :: _ =>
    let start ← here
    expect "["
    let e ← r.expression true
    expect "]"
    finish "computed_property_name" start [e]
  | '\'' :: _ | '"' :: _ => stringLiteral
  | '#' :: rest => leaf "private_property_identifier" (1 + (nameAt rest).length)
  | s =>
    let name := nameAt s
    if !name.isEmpty then leaf "property_identifier" name.length
    else
      let n := numberLength s
      if n = 0 then failure
      leaf "number" n

/-- A pattern with an optional default. -/
def patternWithDefault (r : Rules) : Reader Node := do
  let start ← here
  let target ← r.pattern
  if !(← accept "=") then return target
  let value ← r.expression true
  finish "assignment_pattern" start [inField "left" target, inField "right" value]

/-- A member of an object pattern. -/
def patternMember (r : Rules) : Reader Node := do
  let start ← here
  if ← accept "..." then finish "rest_pattern" start [← r.pattern]
  else
    let name ← nextName
    let key ← propertyName r
    if ← accept ":" then
      let value ← patternWithDefault r
      finish "pair_pattern" start [inField "key" key, inField "value" value]
    else if name = "" then failure
    else
      let short : Node :=
        .mk "shorthand_property_identifier_pattern" key.start key.stop none true []
      if ← accept "=" then
        let value ← r.expression true
        finish "object_assignment_pattern" start [inField "left" short, inField "right" value]
      else return short

/-- An object or array pattern, a rest pattern, or anything that can be assigned to. -/
def pattern (r : Rules) : Reader Node := do
  let start ← here
  if ← accept "..." then finish "rest_pattern" start [← r.pattern]
  else if ← accept "\x7b" then
    finish "object_pattern" start (← commaList "\x7d" (patternMember r))
  else if ← accept "[" then
    finish "array_pattern" start (← commaList "]" (patternWithDefault r))
  else identifier

/-- What a declaration binds: a name or a destructuring pattern. -/
def bindingTarget (r : Rules) : Reader Node := r.pattern

def parameters (r : Rules) : Reader Node := do
  let start ← here
  expect "("
  let items ← commaList ")" (patternWithDefault r)
  finish "formal_parameters" start items

end ComponentLint.Script.Grammar
