import ComponentLint.Fault
import ComponentLint.Pattern.Engine

/-!
Filters over file paths. A literal value matches the path it spells and everything below a
directory it names; an expression matches anywhere in the path.
-/

namespace ComponentLint

open Pattern (Engine)

structure PathFilter where
  values : List String
  /-- The written expressions with the tests they are compiled to. -/
  patterns : List (String × (String → Bool))

namespace PathFilter

def compile [Engine] (component source : String) : Except Fault (String × (String → Bool)) :=
  match Engine.compile source with
  | .ok test => .ok (source, test)
  | .error f => .error (.ofReadFailure (.configuration component
      ("invalid path regular expression " ++ Text.quoted source)) f)

/-- The filter of two lists, or none when neither is given; an empty list makes a filter that
matches nothing. -/
def build [Engine] (values regexps : Option (List String)) (component : String) :
    Except Fault (Option PathFilter) :=
  if values.isNone ∧ regexps.isNone then .ok none
  else do
    let patterns ← (regexps.getD []).mapM (compile component)
    return some ⟨values.getD [], patterns⟩

/-- A path without slashes has its backslashes taken for slashes. -/
def normalize (path : List Char) : List Char :=
  if path.contains '/' then path else path.map fun c => if c = '\\' then '/' else c

/-- Whether a value is the path or one of its directories, with or without the final slash. The
path is given from its end. -/
def matchesPrefix (values : List String) : List Char → Bool
  | [] => false
  | c :: cs =>
    values.contains (String.ofList (c :: cs).reverse) ||
      matchesPrefix values (if c = '/' then cs else cs.dropWhile (· ≠ '/'))
termination_by path => path.length
decreasing_by
  have : (cs.dropWhile (· ≠ '/')).length ≤ cs.length :=
    (List.dropWhile_sublist _).length_le
  split <;> simp only [List.length_cons] <;> omega

def holds (f : PathFilter) (path : String) : Bool :=
  let q := normalize path.toList
  matchesPrefix f.values q.reverse || f.patterns.any (·.2 (String.ofList q))

end PathFilter

end ComponentLint
