import ComponentLint.Fault
import ComponentLint.File.Path

/-!
File trees: finitely many files with their bytes, and the directories around them. Files are kept
under the parts of their absolute paths. A path is followed part by part, so a `..` needs the
directory it leaves.
-/

namespace ComponentLint

/-- Files by the parts of their absolute paths, and all directories. -/
structure Store where
  files : List (List String × ByteArray) := []
  directories : List (List String) := []
  deriving Inhabited

namespace Store

/-- The parts of an absolute path. -/
def partsOf (path : String) : List String :=
  (Path.parts path.toList).map String.ofList

def isDirectoryAt (s : Store) (key : List String) : Bool :=
  key.isEmpty || s.directories.contains key

def contentAt? (s : Store) (key : List String) : Option ByteArray :=
  (s.files.find? (·.1 == key)).map (·.2)

/-! ### Changes -/

/-- Makes a directory and those on the way to it. -/
def makeDirectory (s : Store) (key : List String) : Store :=
  let way := (List.range (key.length + 1)).map key.take
  { s with directories := s.directories ++ way.filter fun d => !s.directories.contains d }

/-- Writes a file, with the directories it needs. -/
def write (s : Store) (key : List String) (content : ByteArray) : Store :=
  let t := s.makeDirectory key.dropLast
  { t with files := t.files.filter (·.1 != key) ++ [(key, content)] }

def remove (s : Store) (key : List String) : Store :=
  { s with files := s.files.filter (·.1 != key) }

end Store

/-- A file tree seen from a working directory. -/
structure Workspace where
  store : Store
  directory : List String
  deriving Inhabited

namespace Workspace

/-- The path of the working directory. -/
def path (w : Workspace) : String := Path.assemble ['/'] (w.directory.map String.toList)

/-- Follows one part of a path from a directory. -/
def follow (w : Workspace) (here : List String) (part : List Char) : Option (List String) :=
  if !w.store.isDirectoryAt here then none
  else if part = [] ∨ part = ['.'] then some here
  else if part = ['.', '.'] then some here.dropLast
  else
    let next := here ++ [String.ofList part]
    if w.store.isDirectoryAt next || (w.store.contentAt? next).isSome then some next else none

/-- What a path leads to, if there is anything. -/
def locate (w : Workspace) (path : String) : Option (List String) :=
  if path = "" then none
  else
    let start := if path.toList.head? = some '/' then [] else w.directory
    (Text.splitOn '/' path.toList).foldlM w.follow start

def isFile (w : Workspace) (path : String) : Bool :=
  ((w.locate path).bind w.store.contentAt?).isSome

def exists? (w : Workspace) (path : String) : Bool := (w.locate path).isSome

def isDirectory (w : Workspace) (path : String) : Bool :=
  ((w.locate path).map w.store.isDirectoryAt).getD false

/-- The bytes of a file that has been seen to exist. -/
def bytes (w : Workspace) (path : String) : Except Fault ByteArray :=
  match (w.locate path).bind w.store.contentAt? with
  | some b => .ok b
  | none => .error (.crash .isDirectory)

/-- Bytes as text with unified line ends, if they are UTF-8. -/
def decode? (b : ByteArray) : Option String :=
  (String.fromUTF8? b).map fun s => String.ofList (Text.unifyNewlines s.toList)

/-- The text of a file that is to be parsed; `kind` names it when it does not exist. -/
def readText (w : Workspace) (kind path : String) : Except Fault String :=
  match (w.locate (Path.reduce path)).bind w.store.contentAt? with
  | none => .error (.notFound kind path)
  | some b =>
    match decode? b with
    | some text => .ok text
    | none => .error (.parse s!"Cannot read {path}")

/-! ### Normal names -/

/-- A file's name from some directories up, if it is there. -/
def nameFrom? (directory : List String) (key : List String) (ups : Nat) : Option String :=
  let base := directory.take (directory.length - ups)
  if base.isPrefixOf key then
    some (Path.assemble [] (List.replicate ups ['.', '.'] ++
      (key.drop base.length).map String.toList))
  else none

/-- The normalized paths that lead to a file. -/
def namesOf (directory : List String) (key : List String) : List String :=
  let cs := key.map String.toList
  [Path.assemble ['/'] cs, Path.assemble ['/', '/'] cs] ++
    (List.range (directory.length + 1)).filterMap (nameFrom? directory key)

/-- All files under all their normalized paths. -/
def named (w : Workspace) : List (String × ByteArray) :=
  w.store.files.flatMap fun (key, b) => (namesOf w.directory key).map (·, b)

end Workspace

end ComponentLint
