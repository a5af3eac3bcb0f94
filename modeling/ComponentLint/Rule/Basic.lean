import ComponentLint.Component
import ComponentLint.Fault

/-!
Rules over component models. A rule looks at the model alone and reports under its own id.
-/

namespace ComponentLint

open Markup (Place)

structure Rule where
  id : String
  description : String
  /-- The findings in a model; the text is the entry document of the run. -/
  check : Model → String → Except Fault (List Diagnostic)

namespace Rule

/-- A finding at a place of a document. -/
def atPlace (id : String) (p : Place) (message : String) : Diagnostic :=
  { filename := p.href, location := p.location, message := message, ruleId := id }

/-- A finding at a position in a script, else at the script element, else at the component. -/
def atPosition (id : String) (position : Option Position) (c : Component) (message : String) :
    Diagnostic :=
  match position, c.script with
  | none, some script => atPlace id script message
  | _, _ =>
    let p := (position.orElse fun _ => c.position).getD ⟨c.contentHref, ⟨0, 0⟩⟩
    { filename := p.filename, location := p.location, message := message, ruleId := id }

/-- A rule that cannot fail and does not depend on the entry document. -/
def ofFunction (id description : String) (check : Model → List Diagnostic) : Rule :=
  ⟨id, description, fun m _ => .ok (check m)⟩

end Rule

end ComponentLint
