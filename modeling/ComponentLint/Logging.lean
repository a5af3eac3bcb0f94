import ComponentLint.Log

/-!
The log as the program keeps it: handlers in a list, and log files in its file tree. Nothing is
proved of this module.
-/

namespace ComponentLint

open Log (Sink Layout Handler)

namespace Logging

structure Record where
  level : String
  message : String
  deriving DecidableEq, Repr

/-- The levels there are, with their severities. -/
def severities : List (String × Nat) :=
  [("TRACE", 5), ("DEBUG", 10), ("INFO", 20), ("SUCCESS", 25), ("WARNING", 30), ("ERROR", 40),
   ("CRITICAL", 50)]

def severity? (level : String) : Option Nat := severities.lookup level

/-- The handlers and the log files. -/
structure Recorder where
  installed : List (Nat × Handler) := [(0, ⟨.standardError, "DEBUG", .structured true true⟩)]
  /-- The number for the next handler. -/
  next : Nat := 1
  workspace : Workspace
  /-- The records of the log files, by their places. -/
  records : List (List String × List Record) := []

namespace Recorder

/-! ### Log files -/

/-- One part of the way to a log file. -/
def enter (here : List String) (part : String) : List String :=
  if part = ".." then here.dropLast else here ++ [part]

/-- Makes the directories of a path, part by part; `made` says that one has been made already. -/
def makeParents (s : Store) (made : Bool) (here : List String) :
    List String → Store × Except Fault (List String)
  | [] => (s, .ok here)
  | part :: rest =>
    let next := enter here part
    if (s.contentAt? next).isSome then
      (s, .error (.crash (if rest.isEmpty || made then .fileExists else .notDirectory)))
    else makeParents (s.makeDirectory next) (made || !s.isDirectoryAt next) next rest

def partsOf (path : String) : List String := Store.partsOf path

/-- Where the parts of a path are followed from. -/
def start (w : Workspace) (path : String) : List String :=
  if path.toList.head? = some '/' then [] else w.directory

/-- The place of a log file. -/
def placeOf (w : Workspace) (path : String) : List String :=
  (partsOf path).foldl enter (start w path)

/-- Makes the directory of a log file. -/
def makeDirectory (path : String) (r : Recorder) : Recorder × Except Fault Unit :=
  let (s, result) := makeParents r.workspace.store false (start r.workspace path)
    (partsOf path).dropLast
  ({ r with workspace.store := s }, result.map fun _ => ())

/-- Adds a file without records, if it has none. -/
def withFile (key : List String) (records : List (List String × List Record)) :
    List (List String × List Record) :=
  if records.any (·.1 == key) then records else records ++ [(key, [])]

/-- Opens a log file, which is made where it does not exist. -/
def openFile (path : String) (r : Recorder) : Recorder × Except Fault Unit :=
  let key := placeOf r.workspace path
  let s := r.workspace.store
  if (partsOf path).getLast?.all (· == "..") || s.isDirectoryAt key then
    (r, .error (.crash .isDirectory))
  else
    let s := if (s.contentAt? key).isSome then s else s.write key .empty
    ({ r with workspace.store := s, records := withFile key r.records }, .ok ())

/-! ### Handlers -/

def openSink : Sink → Recorder → Recorder × Except Fault Unit
  | .file path, r => r.openFile path
  | _, r => (r, .ok ())

/-- Installs a handler, if its sink can be opened and its level exists. -/
def add (h : Handler) (r : Recorder) : Recorder × Except Fault Nat :=
  let number := r.next
  let r := { r with next := number + 1 }
  match r.openSink h.sink with
  | (r, .error f) => (r, .error f)
  | (r, .ok ()) =>
    if (severity? h.level).isSome then
      ({ r with installed := r.installed ++ [(number, h)] }, .ok number)
    else (r, .error (.crash .badText))

def remove (number : Nat) (r : Recorder) : Recorder × Except Fault Unit :=
  if r.installed.any (·.1 == number) then
    ({ r with installed := r.installed.filter (·.1 != number) }, .ok ())
  else (r, .error (.crash .badText))

instance : Log.Library Recorder where
  installed := installed
  add := add
  remove := remove
  makeDirectory := makeDirectory
  files := workspace
  isLevel := fun level => (severity? level).isSome
  isTerminal := true

end Recorder

end Logging

open Logging

structure Logging extends Recorder where
  configuration : Option LogConfiguration := none
  own : List Nat := []

namespace Logging

/-- The log of these handlers. -/
def log (l : Logging) : Log Recorder := ⟨l.configuration, l.own, l.toRecorder⟩

def ofLog (l : Log Recorder) : Logging :=
  { l.library with configuration := l.configuration, own := l.own }

/-- The handlers that were installed from here. -/
def handlers (l : Logging) : List Handler := l.log.handlers

/-- Configures the log, and says whether the handlers were replaced. -/
def configure (force : Bool) (s : LogSettings) (l : Logging) : Logging × Except Fault Bool :=
  let (log, result) := l.log.configure force s
  (ofLog log, result)

/-- Forgets the configuration and takes the one of the environment. -/
def configureDefault (env : Environment) (l : Logging) : Logging × Except Fault Bool :=
  let (log, result) := { l.log with configuration := none }.ensure env
  (ofLog log, result)

/-! ### Writing -/

/-- Whether a handler takes records of a severity. -/
def takes (severity : Nat) (h : Handler) : Bool := (severity? h.level).any (· ≤ severity)

def append (key : List String) (r : Record) (records : List (List String × List Record)) :
    List (List String × List Record) :=
  records.map fun (k, rs) => (k, if k = key then rs ++ [r] else rs)

/-- Writes a record, and says on which sinks. -/
def write (r : Record) (l : Logging) : Logging × Except Fault (List Sink) :=
  match severity? r.level with
  | none => (l, .error (.crash .badText))
  | some n =>
    let sinks := ((l.installed.map (·.2)).filter (takes n)).map (·.sink)
    let step := fun records sink => match sink with
      | .file path => append (Recorder.placeOf l.workspace path) r records
      | _ => records
    ({ l with records := sinks.foldl step l.records }, .ok sinks)

/-- The records of a file, if it exists. -/
def recordsOf? (l : Logging) (path : String) : Option (List Record) :=
  (l.workspace.locate path).bind fun key => l.records.lookup key

end Logging

end ComponentLint
