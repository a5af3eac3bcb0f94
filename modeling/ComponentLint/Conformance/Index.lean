import ComponentLint.Script.Node

/-!
An index of tests by syntax node kind. An edge for a kind holds the tests that run on nodes of it,
and below it, by a path to a descendant, further indexes for tests that ask for a descendant of a
certain kind. One look-up at a node finds every test that applies to it.
-/

namespace ComponentLint.Conformance

open Script (Node)

mutual

/-- The edges of one level in the order of their first registration. -/
inductive Index (τ : Type) where
  | nil
  | edge (kind : String) (tests : List τ) (below : Branches τ) (rest : Index τ)

/-- The indexes below an edge, by path. -/
inductive Branches (τ : Type) where
  | nil
  | branch (path : String) (index : Index τ) (rest : Branches τ)

end

/-- A step from a node to a descendant of a kind. -/
structure Step where
  path : String
  kind : String
  deriving DecidableEq, Repr

variable {τ : Type}

/-- The index of one chain, with its test if there is one. -/
def Index.fresh (test : Option τ) : String → List Step → Index τ
  | kind, [] => match test with
    | some t => .edge kind [t] .nil .nil
    | none => .nil
  | kind, s :: steps => .edge kind [] (.branch s.path (fresh test s.kind steps) .nil) .nil

mutual

/-- Adds a chain, sharing the edges that are there; without a test it only makes room. -/
def Index.insert (test : Option τ) (kind : String) (steps : List Step) : Index τ → Index τ
  | .nil => .fresh test kind steps
  | .edge k tests below rest =>
    if k = kind then
      match steps with
      | [] => .edge k (tests ++ test.toList) below rest
      | s :: more => .edge k tests (below.insert test s more) rest
    else .edge k tests below (rest.insert test kind steps)

def Branches.insert (test : Option τ) (s : Step) (steps : List Step) : Branches τ → Branches τ
  | .nil => .branch s.path (.fresh test s.kind steps) .nil
  | .branch path index rest =>
    if path = s.path then .branch path (index.insert test s.kind steps) rest
    else .branch path index (rest.insert test s steps)

end

/-- Registers a test under a chain. A step without a path is refused; what came before it stays
in the index as edges without tests. -/
def Index.add (test : τ) (kind : String) (steps : List Step) (i : Index τ) :
    Index τ × Except Fault Unit :=
  let usable := steps.takeWhile (·.path ≠ "")
  if usable.length = steps.length then (i.insert (some test) kind steps, .ok ())
  else (if usable.isEmpty then i else i.insert none kind usable, .error .emptyChildPath)

mutual

/-- How many tests are registered. -/
def Index.testCount : Index τ → Nat
  | .nil => 0
  | .edge _ tests below rest => tests.length + below.testCount + rest.testCount

def Branches.testCount : Branches τ → Nat
  | .nil => 0
  | .branch _ index rest => index.testCount + rest.testCount

end

mutual

/-- The tests that apply to a node, by edge, each with the node they are to look at. -/
def Index.lookup (n : Node) : Index τ → Except Fault (List (List τ × Node))
  | .nil => .ok []
  | .edge kind tests below rest =>
    if kind = n.kind then do
      let deeper ← below.lookup n
      return (if tests.isEmpty then [] else [(tests, n)]) ++ deeper
    else rest.lookup n

def Branches.lookup (n : Node) : Branches τ → Except Fault (List (List τ × Node))
  | .nil => .ok []
  | .branch path index rest => do
    let here ← match ← n.resolve path with
      | some c => index.lookup c
      | none => pure []
    return here ++ (← rest.lookup n)

end

end ComponentLint.Conformance
