import ComponentLint.DataFormats
import ComponentLint.File.Store
import ComponentLint.Json.Reader
import ComponentLint.Policy.Requirement

/-!
Policy files: a mapping with a list of requirements, as JSON or YAML by the ending of the name.
-/

namespace ComponentLint.Policy

variable [DataFormats] [Pattern.Engine]

def yamlSuffixes : List String := [".yaml", ".yml"]

/-- The data of a policy file. -/
def data (path text : String) : Except Fault Value :=
  (if yamlSuffixes.contains (Path.suffix path) then DataFormats.yaml text
    else Json.parse text).mapError
      (.ofReadFailure (.configuration (Path.name path) "invalid policy file"))

def isMapping : Value → Bool
  | .map _ => true
  | _ => false

/-- The policy in a file. -/
def load (w : Workspace) (path : String) : Except Fault Policy := do
  match (w.locate (Path.reduce path)).bind w.store.contentAt? with
  | none => throw (.notFound "policy" path)
  | some b =>
    match Workspace.decode? b with
    | none => throw (.configuration (Path.name path) "cannot read policy")
    | some text =>
      let v ← data path text
      if !isMapping v then throw (.configuration (Path.name path) "policy must be a mapping")
      ofValue v

end ComponentLint.Policy
