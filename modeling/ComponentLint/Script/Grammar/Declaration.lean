import ComponentLint.Script.Grammar.Expression

/-!
Declarations of variables.
-/

namespace ComponentLint.Script.Grammar

open Scan

/-- A declared name or pattern with an optional value; also whether it has one. -/
def declarator (r : Rules) (inAllowed : Bool) : Reader (Node × Bool) := do
  let start ← here
  let target ← bindingTarget r
  if ← accept "=" then
    let value ← r.expression inAllowed
    return (← finish "variable_declarator" start [inField "name" target, inField "value" value],
      true)
  else return (← finish "variable_declarator" start [inField "name" target], false)

/-- Further declarators after the first one, and whether the last of all has a value. -/
def moreDeclarators (r : Rules) (inAllowed : Bool) (first : Node × Bool) :
    Reader (List Node × Bool) := do
  let others ← many (do
    if ← accept "," then return some (← declarator r inAllowed) else return none)
  let all := first :: others
  return (all.map (·.1), (all.getLast?.map (·.2)).getD false)

def declarationKind (word : String) : String :=
  if word = "var" then "variable_declaration"
  else if word = "using" then "using_declaration" else "lexical_declaration"

/-- The word of a declaration; it is a field of all but `var`. -/
def declarationWord (word : String) : Reader (List Node) := do
  let m ← mark "kind" word
  return if word = "var" then [] else [m]

def declaration (r : Rules) (word : String) : Reader Node := do
  let start ← here
  let kind ← declarationWord word
  let (ds, valued) ← moreDeclarators r true (← declarator r true)
  semicolon valued
  finish (declarationKind word) start (kind ++ ds)

/-- Whether a word that declares is followed by what it declares. -/
def declaresNext (word : String) : Reader Bool := do
  if (← nextName) ≠ word then return false
  lookahead (do
    take word.length
    let name ← nextName
    if name ≠ "" then
      return !reserved.contains name && (word ≠ "using" || (name ≠ "of" && !(← onNewLine)))
    else if word = "using" then return false
    else return (← isNext "[") || (← isNext "\x7b"))

end ComponentLint.Script.Grammar
