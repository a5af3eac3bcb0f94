import ComponentLint.Markup.Place

/-!
Components and the documents they come from. A model is what the rules look at; a document loaded
again under the same name takes the place of the earlier one.
-/

namespace ComponentLint

open Markup (Document Place)

/-- A property a component declares. A method is a property of type `Function`. -/
structure Property where
  name : String
  type : String := ""
  /-- The method called when the property changes. -/
  observer : Option String := none
  position : Option Position := none
  observerPosition : Option Position := none
  deriving DecidableEq, Repr, Inhabited

def Property.isFunction (p : Property) : Bool := p.type == "Function"

/-- An expression observed over several properties. -/
structure Observer where
  expression : String
  position : Option Position := none
  deriving DecidableEq, Repr, Inhabited

structure Component where
  tagName : String
  properties : List Property := []
  observers : List Observer := []
  /-- The script element that registers the component. -/
  script : Option Place := none
  contentHref : String := ""
  position : Option Position := none
  deriving Inhabited, Repr

structure Model where
  components : List Component
  documents : List Document
  deriving Inhabited, Repr

namespace Model

/-- Adds a document, in the place of one with the same name if there is one. -/
def putDocument (d : Document) : List Document → List Document
  | [] => [d]
  | e :: es => if e.href = d.href then d :: es else e :: putDocument d es

def ofList (components : List Component) (documents : List Document) : Model :=
  ⟨components, documents.foldl (fun ds d => putDocument d ds) []⟩

def document? (m : Model) (href : String) : Option Document :=
  m.documents.find? (·.href == href)

/-- All places, document by document. -/
def places (m : Model) : List Place := m.documents.flatMap fun d => (Place.root d).walk

/-- The matching places of all documents, in load order. -/
def walkAll (m : Model) (test : Place → Bool) : List Place :=
  m.documents.flatMap fun d => (Place.root d).walkAll test

def isDomModule (id : String) (p : Place) : Bool :=
  Place.hasTag "dom-module" p && p.attributeValue? "id" == some id

/-- Every `dom-module` of an id. -/
def domModules (m : Model) (id : String) : List Place := m.walkAll (isDomModule id)

def isDefined (m : Model) (tag : String) : Bool := m.components.any (·.tagName == tag)

/-- The tags in order of registration, each with the index of the first component that has it. -/
def elements (m : Model) : List (String × Nat) :=
  let step := fun (acc : List (String × Nat)) (c : Component × Nat) =>
    if acc.any (·.1 == c.1.tagName) then acc else acc ++ [(c.1.tagName, c.2)]
  m.components.zipIdx.foldl step []

end Model

end ComponentLint
