import ComponentLint.Text.Case
import ComponentLint.Value

/-!
What can go wrong. The first group is meant for the user and has a message; a `crash` is a
value of the wrong shape met where nothing checks for it, and says only what kind of step
failed.
-/

namespace ComponentLint

/-- A step that failed without a message of its own. -/
inductive Crash where
  /-- A value of a type the step cannot take. -/
  | wrongType
  /-- A value without the operation that was asked of it. -/
  | noOperation
  /-- Bytes that are not UTF-8. -/
  | undecodable
  /-- A directory where a file is read. -/
  | isDirectory
  /-- A path that runs through a file. -/
  | notDirectory
  /-- A file where a directory is to be made. -/
  | fileExists
  /-- A text that stands for no number, or for no log level. -/
  | badText
  /-- A number too large for its use. -/
  | overflow
  /-- A construct that is not finished the way it began. -/
  | malformed
  /-- A style tag that closes nothing. -/
  | unopenedTag
  /-- A rule or a reader that failed by itself. -/
  | brokenRule
  deriving DecidableEq, Repr

/-- Why a reader gives nothing for a text: the text is not well formed, or the reader failed. -/
inductive ReadFailure where
  | invalid
  | crash (cause : Crash)
  deriving DecidableEq, Repr

/-- The result of a reader that never fails by itself. -/
def ReadFailure.ofOption {α : Type} : Option α → Except ReadFailure α
  | some a => .ok a
  | none => .error .invalid

inductive Fault where
  /-- A setting of a component that cannot be used. -/
  | configuration (component reason : String)
  /-- An entry that is not of the shape it should have. -/
  | malformedEntry (component : String)
  /-- A field whose value breaks a constraint; null stands for no value to show. -/
  | validation (field constraint : String) (value : Value)
  /-- A document that cannot be read. -/
  | parse (message : String)
  /-- A resource that does not exist. -/
  | notFound (kind id : String)
  /-- Any other failure with a message. -/
  | general (message : String)
  | duplicateRule (id : String)
  | emptyChildPath
  | crash (cause : Crash)
  deriving Repr

/-- The text of a value on its own, where there is one. -/
def Value.written (v : Value) : Except Fault String :=
  if v.isWritable then .ok v.plain else .error (.crash .badText)

namespace Fault

/-- A constraint broken by a value that the message shows, where it can be written. -/
def invalid (field constraint : String) (v : Value) : Fault :=
  if v.isWritable then .validation field constraint v else .crash .badText

/-- What a reader's failure is to the program: its own fault for a text that is not well formed. -/
def ofReadFailure (fault : Fault) : ReadFailure → Fault
  | .invalid => fault
  | .crash c => .crash c

/-- The text for the user, where there is one. -/
def message? : Fault → Option String
  | configuration component reason => some s!"Configuration error in '{component}': {reason}"
  | malformedEntry component => some s!"Configuration error in '{component}'"
  | validation field constraint value =>
    let shown := match value with
      | .null => ""
      | v => " (got " ++ v.quoted ++ ")"
    some s!"Validation failed for '{field}': {constraint}{shown}"
  | parse message => some message
  | notFound kind id => some (String.ofList (Text.title kind.toList) ++ s!" '{id}' not found")
  | general message => some message
  | duplicateRule id => some s!"Rule '{id}' is already registered"
  | emptyChildPath => some "Child property path must not be empty"
  | crash _ => none

def message (f : Fault) : String := f.message?.getD ""

/-- Whether the failure is one the program reports by itself. -/
def isReported : Fault → Bool
  | configuration .. | malformedEntry _ | validation .. | parse _ | notFound .. | general _ => true
  | duplicateRule _ | emptyChildPath | crash _ => false

end Fault

end ComponentLint
