import ComponentLint.Markup.Node

/-!
Places in documents. A place is a node, or the document itself, together with the way up to the
root, so that a query can look at what stands around a node. Walks go in document order: a node
before its children, and children from left to right.
-/

namespace ComponentLint.Markup

/-- What stands at a place. -/
inductive Item where
  | document (d : Document)
  | node (n : Node)
  deriving Inhabited, Repr

namespace Item

def children : Item → List Node
  | document d => d.children
  | node n => n.children

/-- A document starts on its first line. -/
def location : Item → Location
  | document _ => ⟨1, 0⟩
  | node n => n.location

def size (i : Item) : Nat := 1 + Node.sizeAll i.children

/-- The tag of an element. -/
def tag? : Item → Option String
  | node (.element _ t _ _) => some t
  | _ => none

def attributes : Item → List Attribute
  | node (.element _ _ as _) => as
  | _ => []

/-- The characters of a text. -/
def text? : Item → Option String
  | node (.text _ v) => some v
  | _ => none

def textContent : Item → String
  | document d => Node.textContentAll d.children
  | node n => n.textContent

end Item

/-- An item of the document `href`; `above` leads up to the root, each step with the parent and
the index of the child below it. -/
structure Place where
  href : String
  item : Item
  above : List (Item × Nat)
  deriving Inhabited, Repr

namespace Place

def root (d : Document) : Place := ⟨d.href, .document d, []⟩

def location (p : Place) : Location := p.item.location

/-- The child indexes that lead here from the root. -/
def address (p : Place) : List Nat := (p.above.map (·.2)).reverse

/-- The places of a parent's children, counted from `i`. -/
def childrenFrom (href : String) (parent : Item) (above : List (Item × Nat)) (i : Nat) :
    List Node → List Place
  | [] => []
  | n :: ns => ⟨href, .node n, (parent, i) :: above⟩ :: childrenFrom href parent above (i + 1) ns

def children (p : Place) : List Place := childrenFrom p.href p.item p.above 0 p.item.children

/-- The places above, from the closest outwards. -/
def ancestorsFrom (href : String) : List (Item × Nat) → List Place
  | [] => []
  | (item, _) :: rest => ⟨href, item, rest⟩ :: ancestorsFrom href rest

def ancestors (p : Place) : List Place := ancestorsFrom p.href p.above

/-! ### Walking -/

def size (p : Place) : Nat := p.item.size

/-- How much stands at and below some places. -/
def sizeAll : List Place → Nat
  | [] => 0
  | p :: ps => p.size + sizeAll ps

theorem sizeAll_append : ∀ ps qs : List Place, sizeAll (ps ++ qs) = sizeAll ps + sizeAll qs
  | [], qs => by simp [sizeAll]
  | p :: ps, qs => by
    have ih := sizeAll_append ps qs
    rw [List.cons_append, sizeAll, sizeAll, ih]
    omega

theorem sizeAll_childrenFrom (href : String) (parent : Item) (above : List (Item × Nat)) :
    ∀ (i : Nat) (ns : List Node), sizeAll (childrenFrom href parent above i ns) = Node.sizeAll ns
  | _, [] => by simp [childrenFrom, sizeAll, Node.sizeAll]
  | i, n :: ns => by
    have ih := sizeAll_childrenFrom href parent above (i + 1) ns
    simp only [childrenFrom, sizeAll, ih, Node.sizeAll, size, Item.size, Item.children, n.size_eq]

theorem sizeAll_children (p : Place) : sizeAll p.children + 1 = p.size := by
  rw [children, sizeAll_childrenFrom, size, Item.size]
  omega

/-- Visits pending places in turn, each followed by its children. -/
def visit : List Place → List Place
  | [] => []
  | p :: rest => p :: visit (p.children ++ rest)
termination_by pending => sizeAll pending
decreasing_by
  have := sizeAll_children p
  rw [sizeAll_append, sizeAll]
  omega

/-- A place and all places below it, in document order. -/
def walk (p : Place) : List Place := visit [p]

def walkAll (p : Place) (test : Place → Bool) : List Place := p.walk.filter test

def walkFirst (p : Place) (test : Place → Bool) : Option Place := p.walk.find? test

/-- The last match in the subtrees of the places, later places first. -/
def lastMatch (test : Place → Bool) (ps : List Place) : Option Place :=
  ps.reverse.findSome? fun p => (p.walkAll test).getLast?

/-- Looks backwards from below the first step: through the earlier siblings, last to first, then
at the parent, then on from there. -/
def priorFrom (href : String) (test : Place → Bool) : List (Item × Nat) → Option Place
  | [] => none
  | (item, i) :: rest =>
    let parent : Place := ⟨href, item, rest⟩
    match lastMatch test (parent.children.take i) with
    | some p => some p
    | none => if test parent then some parent else priorFrom href test rest

/-- The nearest match before a place in document order. -/
def walkPrior (p : Place) (test : Place → Bool) : Option Place := priorFrom p.href test p.above

/-! ### Tests -/

def attribute? (p : Place) (name : String) : Option Attribute :=
  p.item.attributes.find? (·.name == name)

/-- The value of the first attribute of a name. -/
def attributeValue? (p : Place) (name : String) : Option String :=
  (p.attribute? name).bind (·.value)

def hasAttribute (p : Place) (name : String) : Bool := (p.attribute? name).isSome

def hasTag (name : String) (p : Place) : Bool := p.item.tag? == some name

/-- Elements whose attribute has the value; no value stands for an attribute that is absent or
has none. -/
def hasAttributeValue (name : String) (value : Option String) (p : Place) : Bool :=
  p.item.tag?.isSome && p.attributeValue? name == value

def isText (p : Place) : Bool := p.item.text?.isSome

def isTemplate (p : Place) : Bool := hasTag "template" p

def hasAncestor (test : Place → Bool) (p : Place) : Bool := p.ancestors.any test

end Place

end ComponentLint.Markup
