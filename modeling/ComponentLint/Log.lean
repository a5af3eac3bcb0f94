import ComponentLint.File.Store
import ComponentLint.Settings.Basic

/-!
The log: the numbers of the handlers that were installed from here, and the configuration of the
last call that succeeded. Configuring replaces the handlers from here, unless the configuration is
the one that is remembered. When it fails on the way the handlers are those set up so far, and the
configuration that is remembered is the one before. The handlers themselves, and the log files, are
kept by a package of their own.
-/

namespace ComponentLint

/-- A configuration in the form in which two of them are compared. -/
structure LogConfiguration where
  level : String
  format : String
  outputFile : Option String
  useColor : Bool
  includeTimestamp : Bool
  deriving DecidableEq, Repr, Inhabited

/-- The configuration that settings ask for; the log file has to have a text. -/
def LogSettings.configuration (s : LogSettings) : Except Fault LogConfiguration := do
  let outputFile ← if s.outputFile.isTruthy then s.outputFile.written.map some else pure none
  return ⟨s.level, s.format, outputFile, s.useColor, s.includeTimestamp⟩

/-- The settings a configuration was made from. -/
def LogConfiguration.settings (c : LogConfiguration) : LogSettings :=
  ⟨c.level, c.format, (c.outputFile.map .str).getD .null, c.useColor, c.includeTimestamp⟩

namespace Log

/-- Where a handler writes. -/
inductive Sink where
  | standardError
  | standardOutput
  | file (path : String)
  deriving DecidableEq, Repr

/-- How a handler writes its records. -/
inductive Layout where
  | rich (timestamp : Bool)
  | json
  | structured (timestamp color : Bool)
  | plain (timestamp : Bool)
  deriving DecidableEq, Repr

structure Handler where
  sink : Sink
  level : String
  layout : Layout
  deriving DecidableEq, Repr

/-- The package that keeps the handlers, in states of a type, and the files its log files are
among. -/
class Library (σ : Type) where
  /-- All handlers, those of other programs too, by their numbers. -/
  installed : σ → List (Nat × Handler)
  /-- Adds a handler, and gives its number. -/
  add : Handler → σ → σ × Except Fault Nat
  /-- Takes away the handler of a number. -/
  remove : Nat → σ → σ × Except Fault Unit
  /-- Makes the directory of a log file. -/
  makeDirectory : String → σ → σ × Except Fault Unit
  files : σ → Workspace
  /-- Whether there is a level of a name. -/
  isLevel : String → Bool
  /-- Whether errors are written to a terminal, where colours can be used. -/
  isTerminal : Bool

end Log

open Log

structure Log (σ : Type) where
  configuration : Option LogConfiguration := none
  /-- The numbers of the handlers that were installed from here. -/
  own : List Nat := []
  library : σ

namespace Log

variable {σ : Type} [Library σ]

/-- The handlers that were installed from here. -/
def handlers (l : Log σ) : List Handler :=
  ((Library.installed l.library).filter fun e => l.own.contains e.1).map (·.2)

/-- The handler on the console that a configuration asks for. -/
def consoleHandler (terminal : Bool) (c : LogConfiguration) : Handler :=
  match c.format with
  | "rich" => ⟨.standardOutput, c.level, .rich c.includeTimestamp⟩
  | "json" => ⟨.standardError, c.level, .json⟩
  | "structured" =>
    ⟨.standardError, c.level, .structured c.includeTimestamp (c.useColor && terminal)⟩
  | _ => ⟨.standardError, c.level, .plain c.includeTimestamp⟩

/-- The handler of a log file. -/
def fileHandler (level path : String) : Handler := ⟨.file (Path.reduce path), level, .json⟩

/-! ### Handlers -/

/-- Failures that a number without a handler may give. -/
def isBadValue : Fault → Bool
  | .crash .badText | .crash .undecodable => true
  | _ => false

/-- Takes away the handlers of some numbers; those that have none are passed over. -/
def discard : List Nat → σ → σ × Except Fault Unit
  | [], lib => (lib, .ok ())
  | number :: rest, lib =>
    match Library.remove number lib with
    | (lib, .ok ()) => discard rest lib
    | (lib, .error f) => if isBadValue f then discard rest lib else (lib, .error f)

/-- Takes away what was installed from here, and before the first configuration the handler that
was there from the start. -/
def clear (l : Log σ) : Log σ × Except Fault Unit :=
  match discard ((if l.configuration.isNone then [0] else []) ++ l.own) l.library with
  | (lib, .ok ()) => ({ l with library := lib, own := [] }, .ok ())
  | (lib, .error f) => ({ l with library := lib }, .error f)

/-- Installs a handler. -/
def install (h : Handler) (l : Log σ) : Log σ × Except Fault Unit :=
  match Library.add h l.library with
  | (lib, .ok number) => ({ l with library := lib, own := l.own ++ [number] }, .ok ())
  | (lib, .error f) => ({ l with library := lib }, .error f)

/-- Installs the file handler that settings ask for. -/
def addFile (s : LogSettings) (l : Log σ) : Log σ × Except Fault Unit :=
  if !s.outputFile.isTruthy then (l, .ok ())
  else match s.outputFile with
    | .str path =>
      match Library.makeDirectory path l.library with
      | (lib, .ok ()) => install (fileHandler s.level path) { l with library := lib }
      | (lib, .error f) => ({ l with library := lib }, .error f)
    | _ => (l, .error (.crash .wrongType))

/-! ### Configuring -/

/-- A step after another one that may have failed. -/
def andThen (next : Log σ → Log σ × Except Fault Unit) :
    Log σ × Except Fault Unit → Log σ × Except Fault Unit
  | (l, .ok ()) => next l
  | (l, .error f) => (l, .error f)

/-- Replaces the handlers by those that settings ask for. A level that does not exist is found
out once the old handlers are gone. -/
def reconfigure (c : LogConfiguration) (s : LogSettings) (l : Log σ) : Log σ × Except Fault Unit :=
  andThen (fun l => ({ l with configuration := some c }, .ok ())) <|
    andThen (addFile s) <|
      andThen (install (consoleHandler (Library.isTerminal σ) c)) l.clear

/-- Configures the log, and says whether the handlers were replaced. -/
def configure (force : Bool) (s : LogSettings) (l : Log σ) : Log σ × Except Fault Bool :=
  match s.configuration with
  | .error f => (l, .error f)
  | .ok c =>
    if !force ∧ l.configuration = some c then (l, .ok false)
    else
      let (l, result) := l.reconfigure c s
      (l, result.map fun _ => true)

/-- Takes the configuration of the environment where there is none yet. -/
def ensure (env : Environment) (l : Log σ) : Log σ × Except Fault Bool :=
  if l.configuration.isSome then (l, .ok false)
  else
    let level := (env.get? LogSettings.levelVariable).getD "WARNING"
    let format := (env.get? LogSettings.formatVariable).getD "structured"
    l.configure false
      { level := String.ofList (Text.upper level.toList)
        format := String.ofList (Text.lower format.toList) }

end Log

end ComponentLint
