import ComponentLint.Binding.Template
import ComponentLint.Proofs.WalkingBack

/-!
Edits of attributes.

An edit replaces attributes where they stand and leaves the rest of a model as it is. It commutes
with everything that looks at tags and texts alone: walks, ancestors, and the scope of a template.
The attributes of a `dom-module` are kept, so that a component keeps its templates.
-/

namespace ComponentLint

open Markup (Attribute Document Item Node Place)

/-- Where an attribute stands: the child indexes that lead to its element from the root of a
document, and its index there. -/
structure Spot where
  href : String
  address : List ℕ
  index : ℕ
  deriving DecidableEq

/-- What becomes of an attribute, by where it stands and the tag of its element. -/
structure Edit where
  apply : Spot → Option String → Attribute → Attribute
  apply_module : ∀ spot a, apply spot (some "dom-module") a = a

namespace Edit

variable (e : Edit)

def attributes (href : String) (address : List ℕ) (tag : Option String) (as : List Attribute) :
    List Attribute :=
  as.mapIdx fun i => e.apply ⟨href, address, i⟩ tag

mutual

def node (href : String) (address : List ℕ) : Node → Node
  | .text l v => .text l v
  | .element l t as cs =>
    .element l t (e.attributes href address (some t) as) (nodes href address 0 cs)

/-- The children of the node at an address, counted from `i`. -/
def nodes (href : String) (address : List ℕ) (i : ℕ) : List Node → List Node
  | [] => []
  | n :: ns => node href (address ++ [i]) n :: nodes href address (i + 1) ns

end

def item (href : String) (address : List ℕ) : Item → Item
  | .document d => .document { d with children := e.nodes href address 0 d.children }
  | .node n => .node (e.node href address n)

def above (href : String) : List (Item × ℕ) → List (Item × ℕ)
  | [] => []
  | (item, i) :: rest => (e.item href (rest.map (·.2)).reverse item, i) :: above href rest

/-- The same place in the edited document. -/
def place (p : Place) : Place := ⟨p.href, e.item p.href p.address p.item, e.above p.href p.above⟩

def document (d : Document) : Document := { d with children := e.nodes d.href [] 0 d.children }

/-- A component points into the edited document. -/
def component (c : Component) : Component := { c with script := c.script.map e.place }

def model (m : Model) : Model := ⟨m.components.map e.component, m.documents.map e.document⟩

/-! ### Places -/

@[simp] lemma href_place (p : Place) : (e.place p).href = p.href := rfl

@[simp] lemma tag?_place (p : Place) : (e.place p).item.tag? = p.item.tag? := by
  rcases p with ⟨href, d | ⟨l, v⟩ | ⟨l, t, as, cs⟩, above⟩ <;> rfl

@[simp] lemma text?_place (p : Place) : (e.place p).item.text? = p.item.text? := by
  rcases p with ⟨href, d | ⟨l, v⟩ | ⟨l, t, as, cs⟩, above⟩ <;> rfl

@[simp] lemma location_place (p : Place) : (e.place p).location = p.location := by
  rcases p with ⟨href, d | ⟨l, v⟩ | ⟨l, t, as, cs⟩, above⟩ <;> rfl

lemma attributes_place (p : Place) : (e.place p).item.attributes =
    e.attributes p.href p.address p.item.tag? p.item.attributes := by
  rcases p with ⟨href, d | ⟨l, v⟩ | ⟨l, t, as, cs⟩, above⟩ <;> rfl

lemma attributes_place_of_module {p : Place} (h : Place.hasTag "dom-module" p) :
    (e.place p).item.attributes = p.item.attributes := by
  have htag : p.item.tag? = some "dom-module" := by simpa [Place.hasTag] using h
  rw [attributes_place, htag, attributes]
  simp only [e.apply_module, List.mapIdx_eq_zipIdx_map]
  exact List.zipIdx_map_fst 0 p.item.attributes

lemma children_item (href : String) (address : List ℕ) (i : Item) :
    (e.item href address i).children = e.nodes href address 0 i.children := by
  rcases i with d | ⟨l, v⟩ | ⟨l, t, as, cs⟩ <;> rfl

lemma childrenFrom_nodes (href : String) (parent : Item) (above : List (Item × ℕ)) (i : ℕ)
    (ns : List Node) :
    Place.childrenFrom href (e.item href (above.map (·.2)).reverse parent) (e.above href above) i
        (e.nodes href (above.map (·.2)).reverse i ns) =
      (Place.childrenFrom href parent above i ns).map e.place := by
  induction ns generalizing i with
  | nil => rfl
  | cons n ns ih =>
    have haddress : (((parent, i) :: above).map (·.2)).reverse =
        (above.map (·.2)).reverse ++ [i] := by simp
    rw [nodes, Place.childrenFrom, ih, Place.childrenFrom, List.map_cons, place, Place.address,
      haddress]
    rfl

lemma children_place (p : Place) : (e.place p).children = p.children.map e.place := by
  rw [Place.children, place, children_item]
  exact e.childrenFrom_nodes p.href p.item p.above 0 p.item.children

lemma ancestorsFrom_above (href : String) (above : List (Item × ℕ)) :
    Place.ancestorsFrom href (e.above href above) =
      (Place.ancestorsFrom href above).map e.place := by
  induction above with
  | nil => rfl
  | cons step rest ih =>
    rw [Edit.above, Place.ancestorsFrom, ih]
    rfl

lemma ancestors_place (p : Place) : (e.place p).ancestors = p.ancestors.map e.place :=
  e.ancestorsFrom_above p.href p.above

/-- The walk visits the same places in the same order. -/
lemma walk_place (p : Place) : (e.place p).walk = p.walk.map e.place := by
  induction p using Place.induction_children with
  | step p ih =>
    rw [Place.walk_eq, Place.walk_eq p, children_place, List.map_cons, List.flatMap_map,
      List.map_flatMap]
    exact congrArg _ (List.flatMap_congr ih)

lemma earlierFrom_above (href : String) (above : List (Item × ℕ)) :
    Place.earlierFrom href (e.above href above) =
      (Place.earlierFrom href above).map e.place := by
  induction above with
  | nil => rfl
  | cons step rest ih =>
    obtain ⟨item, i⟩ := step
    have hparent : (⟨href, e.item href (rest.map (·.2)).reverse item, e.above href rest⟩ : Place) =
      e.place ⟨href, item, rest⟩ := rfl
    rw [Edit.above, Place.earlierFrom, Place.earlierFrom, ih, hparent, children_place,
      ← List.map_take, List.flatMap_map, List.map_append, List.map_cons, List.map_flatMap]
    simp only [walk_place]

/-! ### Tests that an edit does not change -/

section Tests

variable {test : Place → Bool}

lemma walkAll_place (h : ∀ p, test (e.place p) = test p) (p : Place) :
    (e.place p).walkAll test = (p.walkAll test).map e.place := by
  rw [Place.walkAll, walk_place, List.filter_map]
  exact congrArg _ (List.filter_congr fun q _ => h q)

lemma walkPrior_place (h : ∀ p, test (e.place p) = test p) (p : Place) :
    (e.place p).walkPrior test = (p.walkPrior test).map e.place := by
  have hearlier : (e.place p).earlier = p.earlier.map e.place := e.earlierFrom_above p.href p.above
  rw [Place.walkPrior_eq_earlier, Place.walkPrior_eq_earlier, hearlier, List.filter_map,
    List.getLast?_map]
  exact congrArg _ (congrArg _ (List.filter_congr fun q _ => h q))

lemma hasAncestor_place (h : ∀ p, test (e.place p) = test p) (p : Place) :
    (e.place p).hasAncestor test = p.hasAncestor test := by
  rw [Place.hasAncestor, ancestors_place, List.any_map]
  exact congrArg _ (funext h)

lemma walkAll_model (h : ∀ p, test (e.place p) = test p) (m : Model) :
    (e.model m).walkAll test = (m.walkAll test).map e.place := by
  rw [Model.walkAll, model, List.flatMap_map, Model.walkAll, List.map_flatMap]
  exact List.flatMap_congr fun d _ => e.walkAll_place h (Place.root d)

end Tests

@[simp] lemma hasTag_place (name : String) (p : Place) :
    Place.hasTag name (e.place p) = Place.hasTag name p := by
  rw [Place.hasTag, tag?_place, Place.hasTag]

@[simp] lemma isTemplate_place (p : Place) : (e.place p).isTemplate = p.isTemplate :=
  e.hasTag_place "template" p

@[simp] lemma isText_place (p : Place) : (e.place p).isText = p.isText := by
  rw [Place.isText, text?_place, Place.isText]

@[simp] lemma isOuterTemplate_place (p : Place) :
    Binding.isOuterTemplate (e.place p) = Binding.isOuterTemplate p := by
  rw [Binding.isOuterTemplate, isTemplate_place, e.hasAncestor_place e.isTemplate_place,
    Binding.isOuterTemplate]

@[simp] lemma inNestedTemplate_place (p : Place) :
    Binding.inNestedTemplate (e.place p) = Binding.inNestedTemplate p := by
  refine e.hasAncestor_place (fun q => ?_) p
  rw [isTemplate_place, e.hasAncestor_place e.isTemplate_place]

lemma attributeValue?_place_of_module {p : Place} (h : Place.hasTag "dom-module" p)
    (name : String) : (e.place p).attributeValue? name = p.attributeValue? name := by
  rw [Place.attributeValue?, Place.attribute?, e.attributes_place_of_module h,
    Place.attributeValue?, Place.attribute?]

@[simp] lemma isDomModule_place (id : String) (p : Place) :
    Model.isDomModule id (e.place p) = Model.isDomModule id p := by
  rw [Model.isDomModule, hasTag_place, Model.isDomModule]
  cases hmodule : Place.hasTag "dom-module" p with
  | false => rfl
  | true => rw [e.attributeValue?_place_of_module hmodule]

/-! ### The scope of a component -/

@[simp] lemma tagName_component (c : Component) : (e.component c).tagName = c.tagName := rfl

@[simp] lemma isDefined_model (m : Model) (tag : String) :
    (e.model m).isDefined tag = m.isDefined tag := by
  rw [Model.isDefined, model, List.any_map]
  rfl

lemma domModules_model (m : Model) (id : String) :
    (e.model m).domModules id = (m.domModules id).map e.place :=
  e.walkAll_model (e.isDomModule_place id) m

lemma templates_model (m : Model) (id : String) :
    Binding.templates (e.model m) id = (Binding.templates m id).map e.place := by
  rw [Binding.templates, domModules_model, Binding.templates]
  cases m.domModules id with
  | nil => rfl
  | cons first rest => exact e.walkAll_place e.isOuterTemplate_place first

lemma textNodes_model (m : Model) (id : String) :
    Binding.textNodes (e.model m) id = (Binding.textNodes m id).map e.place := by
  rw [Binding.textNodes, templates_model, List.flatMap_map, Binding.textNodes, List.map_flatMap]
  refine List.flatMap_congr fun t _ => e.walkAll_place (fun p => ?_) t
  rw [isText_place, inNestedTemplate_place]

end Edit

/-! ### Attributes with their places -/

/-- An attribute, the element it belongs to and its index there. -/
structure Placed where
  place : Place
  index : ℕ
  attr : Attribute

namespace Placed

def spot (s : Placed) : Spot := ⟨s.place.href, s.place.address, s.index⟩

def tag (s : Placed) : Option String := s.place.item.tag?

end Placed

/-- The attributes of an element. -/
def placedAt (p : Place) : List Placed := p.item.attributes.mapIdx fun i a => ⟨p, i, a⟩

/-- The attributes in the scope of a component's templates. -/
def placed (m : Model) (id : String) : List Placed :=
  (Binding.templates m id).flatMap fun t =>
    (t.walkAll fun p => !Binding.inNestedTemplate p).flatMap placedAt

lemma attributes_eq_placed (m : Model) (id : String) :
    Binding.attributes m id = (placed m id).map fun s => (s.place, s.attr) := by
  have hplaced : ∀ p : Place, (placedAt p).map (fun s => (s.place, s.attr)) =
      p.item.attributes.map (p, ·) := by
    intro p
    conv_rhs => rw [← List.zipIdx_map_fst 0 p.item.attributes, List.map_map]
    rw [placedAt, List.mapIdx_eq_zipIdx_map, List.map_map]
    rfl
  simp only [placed, List.map_flatMap, hplaced]
  rfl

namespace Edit

variable (e : Edit)

def placed (s : Placed) : Placed :=
  ⟨e.place s.place, s.index, e.apply s.spot s.tag s.attr⟩

@[simp] lemma tag_placed (s : Placed) : (e.placed s).tag = s.tag := e.tag?_place s.place

lemma placedAt_place (p : Place) : placedAt (e.place p) = (placedAt p).map e.placed := by
  rw [placedAt, attributes_place, attributes, List.mapIdx_mapIdx, placedAt,
    List.mapIdx_eq_zipIdx_map, List.mapIdx_eq_zipIdx_map, List.map_map]
  rfl

/-- The attributes in the scope of a component are edited one by one. -/
lemma placed_model (m : Model) (id : String) :
    ComponentLint.placed (e.model m) id = (ComponentLint.placed m id).map e.placed := by
  rw [ComponentLint.placed, templates_model, List.flatMap_map, ComponentLint.placed,
    List.map_flatMap]
  refine List.flatMap_congr fun t _ => ?_
  have hscope : ∀ p, (!Binding.inNestedTemplate (e.place p)) = !Binding.inNestedTemplate p :=
    fun p => congrArg _ (e.inNestedTemplate_place p)
  rw [e.walkAll_place hscope, List.flatMap_map, List.map_flatMap]
  exact List.flatMap_congr fun p _ => e.placedAt_place p

end Edit

end ComponentLint
