import ComponentLint.Command.Wanted

/-!
The program: reads the files a command line asks for, runs it, prints what it gives and ends with
its status.
-/

namespace ComponentLint

/-- The parts of the absolute path of a path seen from a directory. -/
def placeOf (directory path : String) : List String :=
  Store.partsOf (Path.normalize (Path.absolute directory path))

/-- The entries of a list of variables separated by null characters. -/
def environmentOf (text : String) : Environment :=
  (Text.splitOn (Char.ofNat 0) text.toList).filterMap fun entry =>
    match Text.cut ['='] entry with
    | some (name, value) => some (String.ofList name, String.ofList value)
    | none => none

/-- Variables of the process. -/
def readEnvironment : IO Environment := do
  try
    let bytes ← IO.FS.readBinFile "/proc/self/environ"
    return environmentOf ((String.fromUTF8? bytes).getD "")
  catch _ => return []

/-- Adds what is on the disk at a path. -/
def readPath (directory : String) (s : Store) (path : String) : IO Store := do
  let p := (← IO.currentDir) / path
  if ← p.isDir then return s.makeDirectory (placeOf directory path)
  try return s.write (placeOf directory path) (← IO.FS.readBinFile p)
  catch _ => return s

/-- Reads what a command line looks at, until nothing is missing. -/
partial def readWanted (directory : String) (env : Environment) (args : List String) (s : Store)
    (tried : List String) : IO Store := do
  let w : Workspace := ⟨s, Store.partsOf directory⟩
  let new := ((Command.wanted w env args).filter fun p => !tried.contains p).eraseDups
  if new.isEmpty then return s
  let mut s := s
  for p in new do
    s ← readPath directory s p
  readWanted directory env args s (new ++ tried)

def runProgram (args : List String) : IO UInt32 := do
  let directory := (← IO.currentDir).toString
  let env ← readEnvironment
  let here := Store.partsOf directory
  let s ← readWanted directory env args (Store.makeDirectory {} here) []
  let o := Command.run ⟨s, here⟩ env args
  IO.print o.output
  if o.crash.isSome then IO.eprintln "The run failed unexpectedly."
  return o.exitCode.toUInt32

end ComponentLint

def main (args : List String) : IO UInt32 := ComponentLint.runProgram args
