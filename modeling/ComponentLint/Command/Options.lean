import ComponentLint.Text.Basic

/-!
Options of a command line. A long option takes its value after an equals sign or from the next
argument; short ones can be run together, the last of them with its value. Two dashes end the
options. Nothing is proved of this module.
-/

namespace ComponentLint.Command

/-- An option by its written names. -/
structure Spec where
  key : String
  names : List String
  takesValue : Bool := false

/-- What a command line says: options with their values, and the other arguments. -/
structure Parsed where
  options : List (String × Option String) := []
  arguments : List String := []
  deriving DecidableEq, Repr

namespace Parsed

def has (p : Parsed) (key : String) : Bool := p.options.any (·.1 == key)

/-- The last value of an option. -/
def value? (p : Parsed) (key : String) : Option String :=
  ((p.options.filter (·.1 == key)).getLast?).bind (·.2)

def withOptions (found : List (String × Option String)) (p : Parsed) : Parsed :=
  { p with options := found ++ p.options }

def withArgument (a : String) (p : Parsed) : Parsed := { p with arguments := a :: p.arguments }

end Parsed

def find? (specs : List Spec) (name : String) : Option Spec :=
  specs.find? (·.names.contains name)

/-- The option of a long name, with the value after an equals sign. -/
def long? (specs : List Spec) (arg : String) : Option (Spec × Option String) :=
  let name := String.ofList (arg.toList.takeWhile (· ≠ '='))
  let value := match arg.toList.dropWhile (· ≠ '=') with
    | '=' :: v => some (String.ofList v)
    | _ => none
  ((find? specs name).filter fun _ => 2 < name.length).map (·, value)

/-- Short options run together: the flags, then one that takes a value, with what follows it. -/
def cluster? (specs : List Spec) : List Char →
    Option (List (String × Option String) × Option (Spec × List Char))
  | [] => some ([], none)
  | c :: cs =>
    match find? specs (String.ofList ['-', c]) with
    | none => none
    | some s =>
      if s.takesValue then some ([], some (s, cs))
      else (cluster? specs cs).map fun r => ((s.key, none) :: r.1, r.2)

/-- Reads a command line; `none` for one that cannot be used. Where options may not follow other
arguments, the first of those ends them. -/
def parse? (specs : List Spec) (interspersed : Bool) : List String → Option Parsed
  | [] => some {}
  | arg :: rest =>
    if arg = "--" then some { arguments := rest }
    else if arg.toList.head? = some '-' ∧ 1 < arg.length then
      match long? specs arg with
      | some (s, value) =>
        match s.takesValue, value, rest with
        | true, some v, rest => (parse? specs interspersed rest).map (·.withOptions [(s.key, some v)])
        | true, none, v :: rest =>
          (parse? specs interspersed rest).map (·.withOptions [(s.key, some v)])
        | true, none, [] => none
        | false, none, rest => (parse? specs interspersed rest).map (·.withOptions [(s.key, none)])
        | false, some _, _ => none
      | none =>
        if "--".toList.isPrefixOf arg.toList then none
        else match cluster? specs (arg.toList.drop 1), rest with
          | none, _ => none
          | some (flags, none), rest => (parse? specs interspersed rest).map (·.withOptions flags)
          | some (flags, some (s, [])), v :: rest =>
            (parse? specs interspersed rest).map (·.withOptions (flags ++ [(s.key, some v)]))
          | some (_, some (_, [])), [] => none
          | some (flags, some (s, c :: cs)), rest =>
            (parse? specs interspersed rest).map
              (·.withOptions (flags ++ [(s.key, some (String.ofList (c :: cs)))]))
    else if interspersed then (parse? specs interspersed rest).map (·.withArgument arg)
    else some { arguments := arg :: rest }

end ComponentLint.Command
