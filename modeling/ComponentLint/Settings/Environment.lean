import ComponentLint.Value

/-!
Environment variables, and the places of a configuration that name them. Only strings are filled
in; keys, lists and other values stay as they are, and what has been filled in is not looked at
again.
-/

namespace ComponentLint

/-- Variables with their values; the first of a name counts. -/
abbrev Environment := List (String × String)

namespace Environment

def get? (env : Environment) (name : String) : Option String := env.lookup name

/-- The value of a variable that is set to something. -/
def nonEmpty? (env : Environment) (name : String) : Option String := (env.get? name).filter (· ≠ "")

/-- Sets a variable, or removes it. -/
def set (env : Environment) (name : String) (value : Option String) : Environment :=
  (value.map (name, ·)).toList ++ env.filter (·.1 ≠ name)

/-- The name in the braces of a placeholder at the start of a text. -/
def placeholder? : List Char → Option (List Char)
  | '$' :: '{' :: rest =>
    let name := rest.takeWhile (· ≠ '}')
    if name.isEmpty || (rest.drop name.length).isEmpty then none else some name
  | _ => none

/-- What a placeholder is replaced by: itself when the variable is not set. -/
def replacement (env : Environment) (name : List Char) : List Char :=
  match env.get? (String.ofList name) with
  | some v => v.toList
  | none => '$' :: '{' :: name ++ ['}']

/-- Fills in placeholders from left to right; `skip` counts the characters of the current one
still to be passed. -/
def fillFrom (env : Environment) : Nat → List Char → List Char
  | _, [] => []
  | skip + 1, _ :: cs => fillFrom env skip cs
  | 0, c :: cs =>
    match placeholder? (c :: cs) with
    | some name => env.replacement name ++ fillFrom env (name.length + 2) cs
    | none => c :: fillFrom env 0 cs

def fillText (env : Environment) (s : String) : String := String.ofList (env.fillFrom 0 s.toList)

mutual

/-- Fills in the placeholders in all strings of a value. -/
def fill (env : Environment) : Value → Value
  | .str s => .str (env.fillText s)
  | .list items => .list (fillItems env items)
  | .map entries => .map (fillEntries env entries)
  | .null => .null
  | .bool b => .bool b
  | .int n => .int n
  | .float x => .float x
  | .moment kind plain quoted => .moment kind plain quoted

def fillItems (env : Environment) : List Value → List Value
  | [] => []
  | v :: vs => fill env v :: fillItems env vs

def fillEntries (env : Environment) : List (Value × Value) → List (Value × Value)
  | [] => []
  | (k, v) :: es => (k, fill env v) :: fillEntries env es

end

end Environment

end ComponentLint
