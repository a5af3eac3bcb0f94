import ComponentLint.Command.Lint
import ComponentLint.Command.Options
import ComponentLint.Logging
import ComponentLint.Packages

/-!
Command lines: which command they name, and the arguments of it. What cannot be used ends with
status 2. Nothing is proved of this module.
-/

namespace ComponentLint.Command

def Outcome.usage : Outcome := { exitCode := 2 }

def helpSpec : Spec := { key := "help", names := ["--help"] }

/-! ### Listing the rules -/

def rulesCommand (args : List String) : Outcome :=
  match parse? [helpSpec] true args with
  | none => .usage
  | some p =>
    if p.has "help" then { exitCode := 0 } else if !p.arguments.isEmpty then .usage else rules

/-! ### Checking files -/

def lintSpecs : List Spec :=
  [{ key := "policy", names := ["--policy", "-p"], takesValue := true },
   { key := "config", names := ["--config", "-c"], takesValue := true },
   { key := "format", names := ["--format", "-f"], takesValue := true },
   { key := "disable", names := ["--disable", "-d"], takesValue := true },
   { key := "no-follow-imports", names := ["--no-follow-imports"] },
   helpSpec]

/-- The arguments of a check on a command line. -/
def Parsed.lintArguments (p : Parsed) : Arguments where
  files := p.arguments.map Path.reduce
  policy := (p.value? "policy").map Path.reduce
  config := (p.value? "config").map Path.reduce
  format := (p.value? "format").getD "text"
  disable := (p.value? "disable").getD ""
  noFollowImports := p.has "no-follow-imports"

/-- Whether an argument names a file. -/
def isInput (w : Workspace) (path : String) : Bool := w.exists? path && !w.isDirectory path

def lintCommand (w : Workspace) (env : Environment) (args : List String) : Outcome :=
  match parse? lintSpecs true args with
  | none => .usage
  | some p =>
    if p.has "help" then { exitCode := 0 }
    else if p.arguments.isEmpty || !p.arguments.all (isInput w) then .usage
    else lint env ({ workspace := w : Logging }).log p.lintArguments

/-! ### The command line -/

def globalSpecs : List Spec :=
  [{ key := "quiet", names := ["-q", "--quiet"] },
   { key := "verbose", names := ["-V", "--verbose"] },
   { key := "version", names := ["--version", "-v"] },
   helpSpec]

/-- The commands by name. -/
def command? (name : String) : Option (Workspace → Environment → List String → Outcome) :=
  if name = "lint" then some lintCommand
  else if name = "rules" then some fun _ _ args => rulesCommand args
  else none

/-- Runs a command line. -/
def run (w : Workspace) (env : Environment) (args : List String) : Outcome :=
  if args.isEmpty then .usage
  else match parse? globalSpecs false args with
    | none => .usage
    | some p =>
      if p.has "help" then { exitCode := 0 }
      else match p.arguments with
        | [] => { exitCode := 0 }
        | name :: rest =>
          match command? name with
          | none => .usage
          | some command => if p.has "version" then { exitCode := 0 } else command w env rest

end ComponentLint.Command
