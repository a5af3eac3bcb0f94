import ComponentLint.Fault

/-!
The console, which is a package of its own: a run is given it. A text for it holds style tags in
brackets, and a tag that closes nothing cannot be printed. Text from elsewhere is escaped, so that
brackets in it are shown as they are.
-/

namespace ComponentLint

/-- What the package prints. -/
class Console where
  /-- The lines of a text with style tags. -/
  print : String → Except Fault String
  /-- A table with a header, whose cells are texts with style tags. -/
  table : List String → List (List String) → Except Fault String
  /-- A text in which no bracket is taken for a tag. -/
  escape : String → String

namespace Console

variable [Console]

/-- A text in a style. -/
def styled (style text : String) : String := s!"[{style}]{text}[/{style}]"

/-- Whether a text can be printed: its style tags match. -/
def Renders (text : String) : Prop := ∃ s, print text = .ok s

end Console

end ComponentLint
