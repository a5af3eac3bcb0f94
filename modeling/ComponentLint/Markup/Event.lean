import ComponentLint.Markup.Node

/-!
From tags and character data to a tree. An end tag closes the innermost open element of its name
and everything inside it; one that closes nothing is ignored. Void elements take no children, and
character data next to character data is one text.
-/

namespace ComponentLint.Markup

/-- What is met in a document from left to right. -/
inductive Event where
  | start (tag : String) (attributes : List Attribute)
  /-- A start tag that closes itself. -/
  | single (tag : String) (attributes : List Attribute)
  | stop (tag : String)
  | data (text : String)
  deriving DecidableEq, Repr, Inhabited

def voidTags : List String :=
  ["area", "base", "br", "col", "embed", "hr", "img", "input", "keygen", "link", "meta", "param",
   "source", "track", "wbr"]

def isVoid (tag : String) : Bool := voidTags.contains tag

/-- An element that is still open, with its children so far, the last one first. -/
structure Frame where
  location : Location
  tag : String
  attributes : List Attribute
  done : List Node
  deriving Inhabited, Repr

/-- A tree under construction: the open elements, innermost first, and the nodes at the top level,
the last one first. -/
structure Builder where
  frames : List Frame := []
  done : List Node := []
  deriving Inhabited, Repr

namespace Frame

def close (f : Frame) : Node := .element f.location f.tag f.attributes f.done.reverse

end Frame

namespace Builder

/-- Appends a text to the nodes before it. -/
def addText (location : Location) (value : String) : List Node → List Node
  | .text l v :: rest => .text l (v ++ value) :: rest
  | done => .text location value :: done

/-- Changes the nodes before the current position. -/
def modify (b : Builder) (f : List Node → List Node) : Builder :=
  match b.frames with
  | [] => { b with done := f b.done }
  | top :: rest => { b with frames := { top with done := f top.done } :: rest }

def put (b : Builder) (n : Node) : Builder := b.modify (n :: ·)

/-- Closes the innermost element. -/
def pop (b : Builder) : Builder :=
  match b.frames with
  | [] => b
  | top :: rest => put { b with frames := rest } top.close

/-- Closes elements until `n` fewer are open. -/
def popMany (b : Builder) : Nat → Builder
  | 0 => b
  | n + 1 => popMany b.pop n

/-- How many elements an end tag closes; none when it is stray. -/
def depthOf (tag : String) (frames : List Frame) : Nat :=
  match frames.findIdx? (·.tag == tag) with
  | some i => i + 1
  | none => 0

def step (b : Builder) (location : Location) : Event → Builder
  | .start tag attributes =>
    if isVoid tag then b.put (.element location tag attributes [])
    else { b with frames := ⟨location, tag, attributes, []⟩ :: b.frames }
  | .single tag attributes => b.put (.element location tag attributes [])
  | .stop tag => b.popMany (depthOf tag b.frames)
  | .data text => b.modify (addText location text)

def run (b : Builder) (events : List (Location × Event)) : Builder :=
  events.foldl (fun b e => b.step e.1 e.2) b

/-- Closes what is open and gives the forest. -/
def finish (b : Builder) : List Node := (b.popMany b.frames.length).done.reverse

end Builder

/-- The document of a sequence of events. -/
def Document.ofEvents (href : String) (events : List (Location × Event)) : Document :=
  ⟨href, (Builder.run {} events).finish⟩

end ComponentLint.Markup
