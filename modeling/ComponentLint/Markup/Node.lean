import ComponentLint.Diagnostic

/-!
Template trees: texts, and elements with attributes and children, each with the location at which
it starts. A document is the forest of one file.
-/

namespace ComponentLint.Markup

/-- An attribute; one written without `=` has no value. -/
structure Attribute where
  name : String
  value : Option String
  deriving DecidableEq, Repr, Inhabited

inductive Node where
  | text (location : Location) (value : String)
  | element (location : Location) (tag : String) (attributes : List Attribute)
      (children : List Node)
  deriving Inhabited, Repr

structure Document where
  href : String
  children : List Node
  deriving Inhabited, Repr

namespace Node

def location : Node → Location
  | text l _ => l
  | element l _ _ _ => l

def children : Node → List Node
  | text .. => []
  | element _ _ _ cs => cs

mutual

/-- How many nodes a tree has. -/
def size : Node → Nat
  | text .. => 1
  | element _ _ _ cs => 1 + sizeAll cs

def sizeAll : List Node → Nat
  | [] => 0
  | n :: ns => n.size + sizeAll ns

end

mutual

/-- The texts of a tree, one after the other. -/
def textContent : Node → String
  | text _ v => v
  | element _ _ _ cs => textContentAll cs

def textContentAll : List Node → String
  | [] => ""
  | n :: ns => n.textContent ++ textContentAll ns

end

theorem size_eq (n : Node) : n.size = 1 + sizeAll n.children := by
  cases n <;> simp [size, sizeAll, children]

end Node

end ComponentLint.Markup
