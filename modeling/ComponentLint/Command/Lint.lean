import ComponentLint.Console
import ComponentLint.Json.Writer
import ComponentLint.Log
import ComponentLint.Policy.Loading
import ComponentLint.Run
import ComponentLint.Settings.Loading

/-!
The commands, once their arguments have been read. A run ends with status 0 when nothing blocks
success, with 1 when a finding does, and with 2 when the configuration, the policy or an input
cannot be used. A step that fails without a message of its own ends the run with status 1 as well.
-/

namespace ComponentLint.Command

/-- How a run ends: its status, what it printed, and the failure it could not report. -/
structure Outcome where
  exitCode : Nat
  output : String := ""
  crash : Option Fault := none

namespace Outcome

/-- The outcome of a step that fails before or after some output. -/
def ofFault (output : String) (f : Fault) : Outcome :=
  { exitCode := 1, output := output, crash := some f }

/-- Puts what was printed earlier in front. -/
def after (output : String) (o : Outcome) : Outcome := { o with output := output ++ o.output }

end Outcome

variable [Console]

/-- Goes on after something is printed, if it can be. -/
def emit (printed : Except Fault String) (next : Outcome) : Outcome :=
  match printed with
  | .ok s => next.after s
  | .error f => .ofFault "" f

/-- Prints a text with style tags, then goes on. -/
def print (text : String) (next : Outcome) : Outcome := emit (Console.print text) next

/-- Ends a run over a fault: with a message for the user, where there is one. -/
def report (title : String) (f : Fault) : Outcome :=
  if f.isReported then
    print (Console.styled "red" (title ++ ":") ++ " " ++ Console.escape f.message) { exitCode := 2 }
  else .ofFault "" f

/-! ### Listing the rules -/

/-- Prints the built-in rules. -/
def rules : Outcome :=
  emit (Console.table ["Rule", "Description"]
    (Registry.builtin.rules.map fun r => [r.id, r.description])) { exitCode := 0 }

/-! ### Reports -/

/-- The row of a finding. -/
def diagnosticRow (d : Diagnostic) : List String :=
  let message := Console.escape d.message
  [Console.escape s!"{d.filename}:{d.location.line}:{d.location.column}", d.ruleId,
    if d.fatal then Console.styled "red" message else message]

/-- The line of a report without findings. -/
def cleanLine (files : List String) : String :=
  Console.styled "green" "No issues found:" ++ " " ++ Text.joinWith ", " files

/-- The line above the findings of a report. -/
def countLine (r : Report) : String :=
  Console.styled "bold" s!"{r.diagnostics.length} issue(s)" ++ "  " ++
    Console.styled "red" s!"{r.fatal.length} fatal"

/-- A report as text, between blank lines. -/
def printText (files : List String) (r : Report) (next : Outcome) : Outcome :=
  .after "\n" (if r.isClean then print (cleanLine files) (next.after "\n")
  else print (countLine r) (.after "\n" (emit
    (Console.table ["Location", "Rule", "Message"] (r.diagnostics.map diagnosticRow))
    (next.after "\n"))))

/-- The ids that no rule has, in their order. -/
def unknownIds (disabled : List String) : List String :=
  ((disabled.filter fun id => !Registry.builtin.ids.contains id).eraseDups).mergeSort
    fun a b => a ≤ b

/-- The line about ids that no rule has. -/
def unknownLine (disabled : List String) : String :=
  Console.styled "yellow" ("Unknown rule ID(s): " ++ Text.joinWith ", " (unknownIds disabled)) ++
    "  Known: " ++ Text.joinWith ", " (Registry.builtin.ids.mergeSort fun a b => a ≤ b)

/-- Warns of ids that no rule has. -/
def printUnknown (disabled : List String) (next : Outcome) : Outcome :=
  if (unknownIds disabled).isEmpty then next else print (unknownLine disabled) next

/-! ### Checking files -/

/-- The arguments of a check, paths in their reduced form. -/
structure Arguments where
  files : List String
  policy : Option String := none
  config : Option String := none
  format : String := "text"
  /-- The ids of rules to leave out, with commas between them. -/
  disable : String := ""
  noFollowImports : Bool := false
  deriving DecidableEq, Repr

def outputFormats : List String := ["text", "json"]

variable [DataFormats] [Pattern.Engine] [Script.Language] {σ : Type} [Log.Library σ]

/-- The policy of the arguments, or else of the settings. -/
def policyOf (w : Workspace) (a : Arguments) (s : Settings) : Except Fault (Option Policy) :=
  match a.policy with
  | some path => (Policy.load w path).map some
  | none =>
    match s.policy with
    | .null => .ok none
    | .str path => (Policy.load w path).map some
    | _ => .error (.crash .wrongType)

/-- Sets up the log, where the settings ask for anything special. -/
def setUpLog (l : Log σ) (s : Settings) : Except Fault (Log σ) :=
  if s.logging.isDefault then .ok l
  else
    let (l, result) := l.configure false s.logging
    result.map fun _ => l

/-- The files as they are once the log is set up, the settings and the policy of a run. -/
def prepare (env : Environment) (l : Log σ) (a : Arguments) :
    Except Fault (Workspace × Settings × Option Policy) := do
  let s ← (Settings.load (Log.Library.files l.library) env [] a.config).result
  let w := Log.Library.files (← setUpLog l s).library
  return (w, s, ← policyOf w a s)

/-- What is to be done with the files. -/
def taskOf (a : Arguments) (s : Settings) (policy : Option Policy) : Task where
  policy := policy
  disabled := s.disable ++ Settings.commaWords a.disable
  followImports := s.followImports && !a.noFollowImports

/-- How a command ends once its files are checked. -/
def conclude (a : Arguments) (r : Report) : Outcome :=
  let status : Outcome := { exitCode := if r.hasFatal then 1 else 0 }
  if a.format = "json" then status.after (Json.writeDiagnostics r.diagnostics ++ "\n")
  else printText a.files r status

/-- Checks files. -/
def lint (env : Environment) (l : Log σ) (a : Arguments) : Outcome :=
  if !outputFormats.contains a.format then
    print (Console.styled "red" s!"Invalid format '{Console.escape a.format}'." ++
      " Choose from: text, json") { exitCode := 2 }
  else match prepare env l a with
    | .error f => report "Configuration error" f
    | .ok (w, s, policy) =>
      let task := taskOf a s policy
      printUnknown task.disabled (match task.run w a.files with
        | .error f => report "Error" f
        | .ok progress => conclude a progress.report)

end ComponentLint.Command
