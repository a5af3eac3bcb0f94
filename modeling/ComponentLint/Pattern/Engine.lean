import ComponentLint.Fault

/-!
The search for expressions, which is a package of its own: a run is given it.
-/

namespace ComponentLint.Pattern

/-- What the package makes of a written expression: the test whether it matches somewhere in a
text. -/
class Engine where
  compile : String → Except ReadFailure (String → Bool)

end ComponentLint.Pattern
