import ComponentLint.DataFormats
import ComponentLint.File.Store
import ComponentLint.Settings.Basic
import ComponentLint.Warning

/-!
Finding and reading configuration files. A file is named outright, or by the environment, or is
the closest project file with a section of its own from the working directory upwards. What has
been loaded from a path once is not read again. Where a reader fails, so does the loading.
-/

namespace ComponentLint.Settings

variable [DataFormats]

/-- The section of project files that holds the settings. -/
def sectionName : String := "polylint"

/-- The name of project files. -/
def projectFile : String := "pyproject.toml"

/-! ### Reading -/

/-- Whether a value contains a name: as a key, an item or a part of its text. -/
def mentions (name : String) : Value → Except Fault Bool
  | .map es => .ok (Value.lookup name es).isSome
  | .list vs => .ok (vs.any (Value.isString name))
  | .str s => .ok (Text.hasInfix name.toList s.toList)
  | _ => .error (.crash .wrongType)

/-- Whether a project file has a section with settings. -/
def hasSection (entries : List (Value × Value)) : Except Fault Bool :=
  match Value.lookup "tool" entries with
  | none => .ok false
  | some tool => mentions sectionName tool

/-- The value of the section. -/
def sectionOf : Value → Except Fault Value
  | .map es => .ok (Value.get sectionName es)
  | _ => .error (.crash .wrongType)

def decoded (b : ByteArray) : Except Fault String :=
  match String.fromUTF8? b with
  | some s => .ok s
  | none => .error (.crash .undecodable)

/-- The settings of a project file, or of a file that holds nothing else. -/
def ofToml (env : Environment) (name : String) (b : ByteArray) : Except Fault Settings := do
  match DataFormats.toml (← decoded b) with
  | .error f => throw (.ofReadFailure (.configuration name "invalid TOML") f)
  | .ok entries =>
    if ← hasSection entries then
      ofValue env (← sectionOf (Value.get "tool" entries))
    else if name = projectFile then return {}
    else ofValue env (.map entries)

/-- The settings in a manifest. -/
def ofManifest (env : Environment) (name : String) (v : Value) : Except Fault Settings := do
  match v with
  | .map entries =>
    let kind := Value.get "kind" entries
    if !kind.isString "Config" then
      let written ← kind.written
      throw (.configuration name ("YAML config files must use the 'kind: Config' manifest format, " ++
        s!"got 'kind: {written}'"))
    match Value.get "spec" entries with
    | .map spec => ofValue env (.map spec)
    | spec =>
      if spec.isTruthy then throw (.configuration name "'spec' field must be a mapping")
      ofValue env (.map [])
  | _ => throw (.configuration name s!"expected a mapping, got {v.kindName}")

def ofYaml (env : Environment) (name : String) (b : ByteArray) : Except Fault Settings :=
  match DataFormats.yamlFile b with
  | .error f => .error (.ofReadFailure (.configuration name "invalid YAML") f)
  | .ok v => ofManifest env name v

/-- The endings of manifests. -/
def manifestSuffixes : List String := [".yaml", ".yml"]

/-- Reads the settings at an absolute path. -/
def read (w : Workspace) (env : Environment) (path : String) : Except Fault Settings := do
  let b ← w.bytes path
  if manifestSuffixes.contains (Path.suffix path) then ofYaml env (Path.name path) b
  else ofToml env (Path.name path) b

/-! ### Finding -/

/-- The project files from the working directory upwards. -/
def candidates (w : Workspace) : List String :=
  (List.range (w.directory.length + 1)).map fun ups =>
    Path.assemble ['/']
      ((w.directory.take (w.directory.length - ups) ++ [projectFile]).map String.toList)

/-- The first project file with a section; those that cannot be parsed are passed over. -/
def search (w : Workspace) : List String → List Warning × Except Fault (Option String)
  | [] => ([], .ok none)
  | path :: rest =>
    if !w.isFile path then search w rest
    else match w.bytes path >>= decoded with
      | .error f => ([], .error f)
      | .ok text =>
        match DataFormats.toml text with
        | .error (.crash c) => ([], .error (.crash c))
        | .error .invalid =>
          let (warnings, found) := search w rest
          (.unreadable path :: warnings, found)
        | .ok entries =>
          match hasSection entries with
          | .error f => ([], .error f)
          | .ok true => ([], .ok (some path))
          | .ok false => search w rest

/-- The file named by the environment, with a warning if it does not exist. -/
def environmentFile (w : Workspace) (env : Environment) : List Warning × Option String :=
  match env.nonEmpty? Warning.configVariable with
  | none => ([], none)
  | some path =>
    if w.exists? (Path.reduce path) then ([], some (Path.reduce path))
    else ([.configNotFound (Path.reduce path)], none)

/-- The configuration file to use; an empty path counts as none. -/
def find (w : Workspace) (env : Environment) (path : Option String) :
    List Warning × Except Fault (Option String) :=
  match path.filter (· ≠ "") with
  | some path =>
    let path := Path.reduce path
    if w.exists? path then ([], .ok (some path)) else ([], .error (.notFound "configuration" path))
  | none =>
    match environmentFile w env with
    | (_, some path) => ([], .ok (some path))
    | (warnings, none) =>
      let (more, found) := search w (candidates w)
      (warnings ++ more, found)

/-! ### Loading -/

/-- The settings loaded so far by absolute path. -/
abbrev Cache := List (String × Settings)

/-- What loading gives: the settings, the warnings on the way, and the cache after it. -/
structure Loaded where
  result : Except Fault Settings
  warnings : List Warning := []
  cache : Cache

/-- Loads the settings of a file, unless they have been loaded before. -/
def loadAt (w : Workspace) (env : Environment) (cache : Cache) (path : String) :
    Except Fault Settings × Cache :=
  let key := Path.absolute w.path path
  match cache.lookup key with
  | some s => (.ok s, cache)
  | none =>
    match read w env key with
    | .ok s => (.ok s, (key, s) :: cache)
    | .error f => (.error f, cache)

/-- Loads a configuration file that has to exist. -/
def loadFile (w : Workspace) (env : Environment) (cache : Cache) (path : Option String) : Loaded :=
  match find w env path with
  | (warnings, .error f) => ⟨.error f, warnings, cache⟩
  | (warnings, .ok none) =>
    ⟨.error (.notFound "configuration" s!"{projectFile} [tool.{sectionName}]"), warnings, cache⟩
  | (warnings, .ok (some path)) =>
    let (result, cache) := loadAt w env cache path
    ⟨result, warnings, cache⟩

/-- Loads the configuration, or takes the defaults where none is to be found. -/
def load (w : Workspace) (env : Environment) (cache : Cache) (path : Option String) : Loaded :=
  match find w env path with
  | (warnings, .ok none) => ⟨.ok {}, warnings, cache⟩
  | _ => loadFile w env cache path

end ComponentLint.Settings
