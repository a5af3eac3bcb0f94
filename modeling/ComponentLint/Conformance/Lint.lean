import ComponentLint.Conformance.Violation
import ComponentLint.Script.Language
import ComponentLint.Warning

/-!
Checking scripts against a policy. One walk over a script applies all its requirements; nodes of
an unknown kind are reported and walked through all the same.
-/

namespace ComponentLint.Conformance

open Script (Node)

/-- The id every finding of a policy carries. -/
def ruleId : String := "conformance"

/-- Runs the tests found at a node. -/
def runTests (s : Script) (node : Node) (parent : Option Node) :
    List (Test × Node) → Except Fault (List Violation)
  | [] => .ok []
  | (test, target) :: rest => do
    let here ← test.run s target node parent
    return here.toList ++ (← runTests s node parent rest)

variable [Script.Language]

/-- The violations at one node. -/
def checkNode (i : Index Test) (s : Script) (node : Node) (parent : Option Node) :
    Except Fault (List Violation) :=
  if Script.isKnown node.kind then do
    let edges ← i.lookup node
    runTests s node parent (edges.flatMap fun (tests, target) => tests.map (·, target))
  else .ok [⟨node, s!"Unrecognized node type {node.kind}"⟩]

def checkNodes (i : Index Test) (s : Script) :
    List (Node × Option Node) → Except Fault (List Violation)
  | [] => .ok []
  | (node, parent) :: rest => do
    let here ← checkNode i s node parent
    return here ++ (← checkNodes i s rest)

/-- The violations of a script in the order of the walk. -/
def checkScript (i : Index Test) (s : Script) : Except Fault (List Violation) :=
  checkNodes i s s.root.walkWithParents

/-- A violation as a finding; a script without a file of its own is reported under its path. -/
def diagnose (path : String) (s : Script) (v : Violation) : Diagnostic :=
  { filename := (Requirement.nonEmpty s.source).getD path
    location := s.locationOf v.node
    message := v.message
    ruleId := ruleId }

def lintScripts (i : Index Test) (path : String) : List Script → Except Fault (List Diagnostic)
  | [] => .ok []
  | s :: rest => do
    let here ← checkScript i s
    return here.map (diagnose path s) ++ (← lintScripts i path rest)

/-- The findings in the scripts of one path. -/
def lintPath (rs : List Requirement) (path : String) (scripts : List Script) :
    Except Fault (List Diagnostic) :=
  lintScripts (compile rs) path scripts

/-- The findings in scripts grouped by path, against the requirements that apply to each. -/
def lint (policy : Policy) : List (String × List Script) → Except Fault (List Diagnostic)
  | [] => .ok []
  | (path, scripts) :: rest => do
    let rs := policy.applicableTo path
    let here ← if rs.isEmpty then pure [] else lintPath rs path scripts
    return here ++ (← lint policy rest)

/-- What a check warns about: the requirements it has to pass over. -/
def warnings (policy : Policy) (paths : List String) : List Warning :=
  paths.flatMap fun p => (unsupported (policy.applicableTo p)).map .unsupported

end ComponentLint.Conformance
