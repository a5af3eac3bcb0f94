import ComponentLint.Policy.Requirement

/-!
What a run warns about besides its findings.
-/

namespace ComponentLint

inductive Warning where
  /-- A requirement of a kind that has no tests yet. -/
  | unsupported (kind : RequirementKind)
  | remoteImport (href : String)
  | importNotFound (href document : String)
  | scriptNotFound (src document : String)
  /-- The configuration file the environment names does not exist. -/
  | configNotFound (path : String)
  /-- A project file that cannot be parsed. -/
  | unreadable (path : String)
  deriving DecidableEq, Repr

namespace Warning

/-- The variable that names a configuration file. -/
def configVariable : String := "POLYLINT_CONFIG_PATH"

def message : Warning → String
  | unsupported kind => s!"Requirement type {kind.name} is not yet supported; skipping"
  | remoteImport href => s!"Skipping remote import {href}"
  | importNotFound href document => s!"Import {href} from {document} not found"
  | scriptNotFound src document => s!"Script {src} from {document} not found"
  | configNotFound path => configVariable ++ s!" set but file not found: {path}"
  | unreadable path => s!"Skipping unreadable {path}"

def isUnsupported : Warning → Bool
  | unsupported _ => true
  | _ => false

/-- Keeps the first warning about each kind of requirement. -/
def onceEach : List Warning → List Warning → List Warning
  | _, [] => []
  | seen, w :: ws =>
    if w.isUnsupported ∧ w ∈ seen then onceEach seen ws else w :: onceEach (w :: seen) ws

end Warning

end ComponentLint
