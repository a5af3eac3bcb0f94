import ComponentLint.Text.Case

/-!
Paths as texts, with slashes between their parts. Reducing a path drops empty and `.` parts;
normalizing it also lets `..` cancel the part before it, which is a matter of the text alone.
-/

namespace ComponentLint.Path

/-- The leading slashes that count: one, or exactly two. -/
def root (path : List Char) : List Char :=
  match (path.takeWhile (· = '/')).length with
  | 0 => []
  | 2 => ['/', '/']
  | _ => ['/']

/-- The parts that lead somewhere. -/
def parts (path : List Char) : List (List Char) :=
  (Text.splitOn '/' path).filter fun p => p ≠ [] ∧ p ≠ ['.']

def joinParts : List (List Char) → List Char
  | [] => []
  | [p] => p
  | p :: ps => p ++ '/' :: joinParts ps

/-- A path of a root and parts; the empty one is written `.`. -/
def assemble (root : List Char) (ps : List (List Char)) : String :=
  match root ++ joinParts ps with
  | [] => "."
  | s => String.ofList s

/-- The path without empty and `.` parts. -/
def reduce (path : String) : String := assemble (root path.toList) (parts path.toList)

/-- Adds a part to those before it, the last of which comes first. -/
def pushPart (absolute : Bool) (before : List (List Char)) (p : List Char) : List (List Char) :=
  if p ≠ ['.', '.'] then p :: before
  else match before with
    | [] => if absolute then [] else [p]
    | last :: rest => if last = ['.', '.'] then p :: before else rest

/-- The path with each `..` cancelled where there is a part to cancel. -/
def normalize (path : String) : String :=
  let r := root path.toList
  assemble r ((parts path.toList).foldl (pushPart !r.isEmpty) []).reverse

/-- A path followed from a directory. -/
def join (directory path : List Char) : List Char :=
  if path.head? = some '/' then path
  else if directory = [] ∨ directory.getLast? = some '/' then directory ++ path
  else directory ++ '/' :: path

/-- The directory part of a path. -/
def directory (path : List Char) : List Char :=
  let head := (path.reverse.dropWhile (· ≠ '/')).reverse
  if head.all (· = '/') then head else (head.reverse.dropWhile (· = '/')).reverse

/-- The last part of a path. -/
def name (path : String) : String := String.ofList ((parts path.toList).getLast?.getD [])

/-- The end of the name from its last point on, unless the point is its first or last
character. -/
def suffix (path : String) : String :=
  let n := (name path).toList
  let ending := Text.afterLast '.' n
  if ending = [] ∨ n.length ≤ ending.length + 1 then "" else String.ofList ('.' :: ending)

/-- A path seen from a directory given by its own path. -/
def absolute (directory path : String) : String :=
  reduce (String.ofList (join directory.toList path.toList))

/-! ### References -/

/-- References that lead out of the file tree. -/
def isRemote (href : String) : Bool :=
  let s := href.toList
  Text.hasInfix "://".toList s || "//".toList.isPrefixOf s || "data:".toList.isPrefixOf s

/-- What a reference in a document leads to; a fragment and a query are no part of it. -/
def resolve (document href : String) : String :=
  let plain := (href.toList.takeWhile (· ≠ '#')).takeWhile (· ≠ '?')
  normalize (String.ofList (join (directory document.toList) plain))

/-- Whether a `rel` attribute names an import. -/
def isImport (rel : Option String) : Bool :=
  (Text.words (Text.lower (rel.getD "").toList)).contains "import".toList

end ComponentLint.Path
