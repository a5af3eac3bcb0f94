import ComponentLint.Fault
import ComponentLint.Settings.Environment

/-!
Settings of a run and of its log. They are read from a mapping in which a flag may be a word and a
list of rules a text with commas; variables of the environment come before what a file says about
the log.
-/

namespace ComponentLint

/-- Settings of the log. -/
structure LogSettings where
  level : String := "WARNING"
  format : String := "structured"
  outputFile : Value := .null
  useColor : Bool := true
  includeTimestamp : Bool := true
  deriving Inhabited

structure Settings where
  /-- The ids of rules that are never run. -/
  disable : List String := []
  /-- The path of a policy file. -/
  policy : Value := .null
  followImports : Bool := true
  logging : LogSettings := {}
  deriving Inhabited

namespace LogSettings

def isNull : Value → Bool
  | .null => true
  | _ => false

/-- Whether nothing but the defaults is set. -/
def isDefault (s : LogSettings) : Bool :=
  s.level == "WARNING" && s.format == "structured" && isNull s.outputFile && s.useColor &&
    s.includeTimestamp

def levels : List String := ["TRACE", "DEBUG", "INFO", "WARNING", "ERROR", "CRITICAL"]

def formats : List String := ["console", "json", "structured", "rich"]

/-- The variable that sets the level. -/
def levelVariable : String := "POLYLINT_LOG_LEVEL"

/-- The variable that sets the format. -/
def formatVariable : String := "POLYLINT_LOG_FORMAT"

/-- One of the allowed words. -/
def oneOf (field : String) (allowed : List String) (v : Value) : Except Fault String :=
  match v with
  | .str s => if allowed.contains s then .ok s else failed
  | _ => failed
where
  failed : Except Fault String :=
    .error (.invalid field ("must be one of " ++ Text.joinWith ", " allowed) v)

/-- Settings of checked level and format. -/
def make (level format outputFile : Value) (useColor includeTimestamp : Bool) :
    Except Fault LogSettings := do
  let level ← oneOf "logging.level" levels level
  let format ← oneOf "logging.format" formats format
  return ⟨level, format, outputFile, useColor, includeTimestamp⟩

end LogSettings

namespace Settings

def trueWords : List String := ["true", "1", "yes", "on", "enabled"]

def falseWords : List String := ["false", "0", "no", "off", "disabled"]

/-- A flag, which may be written as a word or a number. -/
def flag (field : String) : Value → Except Fault Bool
  | .bool b => .ok b
  | v => do
    let word := String.ofList (Text.strip (Text.lower (← v.written).toList))
    if trueWords.contains word then return true
    else if falseWords.contains word then return false
    else throw (.configuration field ("invalid boolean value " ++ v.quoted))

def isText : Value → Bool
  | .str _ => true
  | _ => false

/-- The texts of a list of texts. -/
def ruleIds (v : Value) : Except Fault (List String) :=
  match v with
  | .list items =>
    if items.all isText then .ok (items.map (·.plain)) else failed
  | _ => failed
where
  failed : Except Fault (List String) :=
    .error (.invalid "disable" "must be a list of rule ids" v)

/-- Settings of checked rule ids and policy. -/
def make (disable policy : Value) (followImports : Bool) (logging : LogSettings) :
    Except Fault Settings := do
  let ids ← ruleIds disable
  match policy with
  | .null => pure ()
  | v => if !v.isTruthy then throw (.validation "policy" "cannot be empty" .null)
  return ⟨ids, policy, followImports, logging⟩

/-- The words between commas, without those that are blank. -/
def commaWords (s : String) : List String :=
  (((Text.splitOn ',' s.toList).map Text.strip).filter (· ≠ [])).map String.ofList

/-- The items of a value that can be gone through. -/
def items : Value → Except Fault (List Value)
  | .list vs => .ok vs
  | .map es => .ok (es.map (·.1))
  | .str s => .ok ((commaWords s).map .str)
  | _ => .error (.crash .wrongType)

/-- The value of a key, or another one where it is missing. -/
def getOr (key : String) (default : Value) (entries : List (Value × Value)) : Value :=
  (Value.lookup key entries).getD default

/-- The settings of the log in a mapping. -/
def loggingOf (env : Environment) (entries : List (Value × Value)) : Except Fault LogSettings := do
  let get := fun key default => getOr key default entries
  -- the texts of the file are made even where the environment goes before them
  let levelText ← (get "level" (.str "WARNING")).written
  let formatText ← (get "format" (.str "structured")).written
  let level := (env.nonEmpty? LogSettings.levelVariable).getD levelText
  let format := (env.nonEmpty? LogSettings.formatVariable).getD formatText
  let useColor ← flag "logging.use_color" (get "use_color" (.bool true))
  let includeTimestamp ← flag "logging.include_timestamp" (get "include_timestamp" (.bool true))
  LogSettings.make (.str (String.ofList (Text.upper level.toList)))
    (.str (String.ofList (Text.lower format.toList))) (Value.get "output_file" entries) useColor
    includeTimestamp

/-- The settings in a mapping whose placeholders are filled in. -/
def ofEntries (env : Environment) (entries : List (Value × Value)) : Except Fault Settings := do
  let get := fun key default => getOr key default entries
  match get "logging" (.map []) with
  | .map logging =>
    let disable ← items (get "disable" (.list []))
    let followImports ← flag "follow_imports" (get "follow_imports" (.bool true))
    let logging ← loggingOf env logging
    make (.list disable) (Value.get "policy" entries) followImports logging
  | _ => throw (.configuration "logging" "must be a mapping")

/-- The settings in a value, which has to be a mapping. -/
def ofValue (env : Environment) (v : Value) : Except Fault Settings :=
  match env.fill v with
  | .map entries => ofEntries env entries
  | _ => .error (.crash .noOperation)

end Settings

end ComponentLint
