/-!
Findings. A location counts lines from one and columns from zero; a report keeps its findings in
the order they were made.
-/

namespace ComponentLint

structure Location where
  line : Int
  column : Int
  deriving DecidableEq, Repr, Inhabited

/-- A location and the file it belongs to. -/
structure Position where
  filename : String
  location : Location
  deriving DecidableEq, Repr, Inhabited

structure Diagnostic where
  filename : String
  location : Location
  message : String
  fatal : Bool := true
  ruleId : String := ""
  deriving DecidableEq, Repr, Inhabited

/-- The findings of a run. -/
structure Report where
  diagnostics : List Diagnostic := []
  deriving DecidableEq, Repr, Inhabited

namespace Report

def add (r : Report) (d : Diagnostic) : Report := ⟨r.diagnostics ++ [d]⟩

def extend (r : Report) (ds : List Diagnostic) : Report := ⟨r.diagnostics ++ ds⟩

/-- The findings that block success. -/
def fatal (r : Report) : List Diagnostic := r.diagnostics.filter (·.fatal)

def byRule (r : Report) (id : String) : List Diagnostic :=
  r.diagnostics.filter (·.ruleId == id)

def isClean (r : Report) : Bool := r.diagnostics.isEmpty

def hasFatal (r : Report) : Bool := r.diagnostics.any (·.fatal)

end Report

end ComponentLint
