import ComponentLint.File.Store
import ComponentLint.Markup.Scanner
import ComponentLint.Registration
import ComponentLint.Script.Language
import ComponentLint.Warning

/-!
Gathering what belongs to an entry document: the documents it imports, directly or through
others, their scripts, and the components those register. Documents come in the order in which
they are met when each import is followed before the next one is looked at; each is loaded once,
so the search ends however the imports lead back.
-/

namespace ComponentLint

open Markup (Document Place)

structure Analysis where
  documents : List Document := []
  /-- Scripts by the path that policies go by: the document for one written in it, the file for
  one of its own. -/
  scripts : List (String × List Script) := []
  components : List Component := []
  warnings : List Warning := []
  deriving Inhabited

/-- The files that can be loaded, by normalized path. -/
abbrev Files := List (String × ByteArray)

namespace Analysis

def content? (files : Files) (path : String) : Option ByteArray := files.lookup path

/-- The files other than one path. -/
def without (path : String) (files : Files) : Files := files.filter (·.1 != path)

theorem length_without_lt {path : String} {files : Files} (h : files.any (·.1 == path)) :
    (without path files).length < files.length := by
  obtain ⟨f, hf, he⟩ := List.any_eq_true.1 h
  rw [without, List.length_filter_lt_length_iff_exists]
  exact ⟨f, hf, by simpa using he⟩

/-- A file as text. -/
def readText (path : String) (b : ByteArray) : Except Fault String :=
  match Workspace.decode? b with
  | some text => .ok text
  | none => .error (.parse s!"Cannot read {path}")

def warn (a : Analysis) (w : Warning) : Analysis := { a with warnings := a.warnings ++ [w] }

/-! ### Scripts -/

/-- The types of script elements that hold scripts. -/
def scriptTypes : List String := ["", "text/javascript", "application/javascript", "module"]

def isScriptType (type : Option String) : Bool :=
  scriptTypes.contains (String.ofList (Text.lower (Text.strip (type.getD "").toList)))

/-- What a script element stands for. -/
inductive ScriptContent where
  /-- Nothing to load: no script by its type, a remote one, or an empty one. -/
  | nothing
  | missing (src : String)
  | file (path : String) (content : ByteArray)
  | text (value : String) (start : Location)

/-- The content of a script element without a source. -/
def inlineContent (element : Place) : ScriptContent :=
  match element.item.children.head? with
  | some (.text start _) =>
    let value := element.item.textContent
    if Text.isBlank value.toList then .nothing else .text value start
  | _ => .nothing

def scriptContent (files : Files) (document : String) (element : Place) : ScriptContent :=
  if !isScriptType (element.attributeValue? "type") then .nothing
  else match (element.attributeValue? "src").filter (· ≠ "") with
    | none => inlineContent element
    | some src =>
      if Path.isRemote src then .nothing
      else
        let path := Path.resolve document src
        match content? files path with
        | some b => .file path b
        | none => .missing src

/-- Adds a script under its path. -/
def putScript (key : String) (s : Script) :
    List (String × List Script) → List (String × List Script)
  | [] => [(key, [s])]
  | (k, ss) :: rest => if k = key then (k, ss ++ [s]) :: rest else (k, ss) :: putScript key s rest

/-- Adds a script and the components it registers. -/
def addScript (a : Analysis) (key : String) (s : Script) (element : Place) :
    Except Fault Analysis := do
  let found ← Registration.components s element
  return { a with scripts := putScript key s a.scripts, components := a.components ++ found }

variable [Script.Language]

def loadScript (files : Files) (document : String) (a : Analysis) (element : Place) :
    Except Fault Analysis :=
  match scriptContent files document element with
  | .nothing => .ok a
  | .missing src => .ok (a.warn (.scriptNotFound src document))
  | .file path b => do
    let text ← readText path b
    a.addScript path { root := Script.Language.parse text, text := text, source := some path } element
  | .text text start =>
    a.addScript document
      { root := Script.Language.parse text, text := text, source := some document
        lineOffset := start.line - 1, columnOffset := start.column } element

def loadScripts (files : Files) (document : String) (a : Analysis) (elements : List Place) :
    Except Fault Analysis :=
  elements.foldlM (loadScript files document) a

/-! ### Documents -/

/-- An import as a document asks for it. -/
structure Link where
  document : String
  href : String
  deriving DecidableEq, Repr

/-- The reference of an element that imports. -/
def link? (document : String) (p : Place) : Option Link :=
  if Path.isImport (p.attributeValue? "rel") then
    ((p.attributeValue? "href").filter (· ≠ "")).map (⟨document, ·⟩)
  else none

/-- The imports of a document in its order. -/
def links (d : Document) : List Link :=
  ((Place.root d).walkAll (Place.hasTag "link")).filterMap (link? d.href)

def isLoaded (a : Analysis) (href : String) : Bool := a.documents.any (·.href == href)

/-- Loads a document and its scripts, but not its imports. -/
def loadDocument (files : Files) (a : Analysis) (href : String) (b : ByteArray) :
    Except Fault (Analysis × Document) := do
  let text ← readText href b
  let d ← Document.parse href text
  let a := { a with documents := a.documents ++ [d] }
  return (← loadScripts files href a ((Place.root d).walkAll (Place.hasTag "script")), d)

/-- Where a link leads. -/
inductive Target where
  | remote
  | missing
  | file (path : String) (content : ByteArray)

def target (files : Files) (l : Link) : Target :=
  if Path.isRemote l.href then .remote
  else
    let path := Path.resolve l.document l.href
    match content? files path with
    | some b => .file path b
    | none => .missing

/-- Follows pending links in turn, the imports of a new document before the rest. `remaining`
holds the files that have not been loaded. -/
def followLinks (files remaining : Files) (a : Analysis) : List Link → Except Fault Analysis
  | [] => .ok a
  | l :: rest =>
    match target files l with
    | .remote => followLinks files remaining (a.warn (.remoteImport l.href)) rest
    | .missing => followLinks files remaining (a.warn (.importNotFound l.href l.document)) rest
    | .file path b =>
      if _h : remaining.any (·.1 == path) then do
        let (a, d) ← loadDocument files a path b
        followLinks files (without path remaining) a (links d ++ rest)
      else followLinks files remaining a rest
termination_by pending => (remaining.length, pending.length)
decreasing_by
  · exact Prod.Lex.right _ (by simp)
  · exact Prod.Lex.right _ (by simp)
  · refine Prod.Lex.left _ _ ?_
    exact length_without_lt _h
  · exact Prod.Lex.right _ (by simp)

/-- Gathers what belongs to an entry document, with or without its imports. -/
def ofEntry (files : Files) (followImports : Bool) (entry : String) : Except Fault Analysis := do
  let href := Path.normalize entry
  match content? files href with
  | none => throw (.notFound "document" href)
  | some b =>
    let (a, d) ← loadDocument files {} href b
    if followImports then followLinks files (without href files) a (links d) else return a

/-- What the rules look at. -/
def model (a : Analysis) : Model := ⟨a.components, a.documents⟩

end Analysis

end ComponentLint
