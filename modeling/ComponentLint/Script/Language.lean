import ComponentLint.Script.Node

/-!
The grammar of scripts, which is a package of its own: a run is given it. Its parser finds a tree
for every text; what has no place in the grammar is a node of a kind that no rule has.
-/

namespace ComponentLint.Script

/-- What the package knows of scripts. -/
class Language where
  /-- The kinds of named nodes. -/
  kinds : List String
  /-- The syntax tree of a text. -/
  parse : String → Node

/-- The kind of text that does not fit the grammar. -/
def errorKind : String := "ERROR"

variable [Language]

/-- Whether a kind of nodes belongs to the grammar proper. -/
def isKnown (kind : String) : Bool := kind != errorKind && Language.kinds.contains kind

end ComponentLint.Script
