import ComponentLint.Number.Decimal
import ComponentLint.Number.Shortest
import ComponentLint.Text.Quoted

/-!
Values of data files: what a JSON, YAML or TOML document holds once it is read. A mapping keeps
its entries in the order of their first appearance. A moment is a calendar date or time, of
which only its two texts are of interest.
-/

namespace ComponentLint

open Number (Binary)

inductive Value where
  | null
  | bool (b : Bool)
  | int (n : Int)
  | float (x : Binary)
  | str (s : String)
  | moment (kind plain quoted : String)
  | list (items : List Value)
  | map (entries : List (Value × Value))
  deriving Inhabited, Repr

namespace Value

/-- The name of a value's kind. -/
def kindName : Value → String
  | null => "NoneType"
  | bool _ => "bool"
  | int _ => "int"
  | float _ => "float"
  | str _ => "str"
  | moment kind _ _ => kind
  | list _ => "list"
  | map _ => "dict"

/-- Whether a value counts as present: null, false, zero and the empty ones do not. -/
def isTruthy : Value → Bool
  | null => false
  | bool b => b
  | int n => n != 0
  | float (.finite _ m _) => m != 0
  | float _ => true
  | str s => !s.isEmpty
  | moment .. => true
  | list items => !items.isEmpty
  | map entries => !entries.isEmpty

mutual

/-- The text of a value as it stands inside a collection: strings are quoted. Whether there is one
at all is a question of its own. -/
def quoted : Value → String
  | null => "None"
  | bool b => if b then "True" else "False"
  | int n => toString n
  | float x => x.text
  | str s => Text.quoted s
  | moment _ _ q => q
  | list items => "[" ++ Text.joinWith ", " (quotedItems items) ++ "]"
  | map entries => "\x7b" ++ Text.joinWith ", " (quotedEntries entries) ++ "\x7d"

def quotedItems : List Value → List String
  | [] => []
  | v :: vs => v.quoted :: quotedItems vs

def quotedEntries : List (Value × Value) → List String
  | [] => []
  | (k, v) :: es => (k.quoted ++ ": " ++ v.quoted) :: quotedEntries es

end

mutual

/-- Whether a value has a text: no whole number in it has too many digits. -/
def isWritable : Value → Bool
  | int n => Number.isWritable n
  | list items => areWritable items
  | map entries => areWritableEntries entries
  | _ => true

def areWritable : List Value → Bool
  | [] => true
  | v :: vs => v.isWritable && areWritable vs

def areWritableEntries : List (Value × Value) → Bool
  | [] => true
  | (k, v) :: es => k.isWritable && v.isWritable && areWritableEntries es

end

/-- The text of a value on its own: a string is its own text. -/
def plain : Value → String
  | str s => s
  | moment _ p _ => p
  | v => v.quoted

/-- The value as a whole number where numbers are compared: a boolean counts as 0 or 1. -/
def integer? : Value → Option Int
  | bool b => some (if b then 1 else 0)
  | int n => some n
  | float x => x.toInt?
  | _ => none

/-- Whether two values are the same key of a mapping: numbers by value, texts by their characters. -/
def sameKey (a b : Value) : Bool :=
  match a.integer?, b.integer? with
  | some m, some n => m == n
  | none, none =>
    match a, b with
    | null, null => true
    | str s, str t => s == t
    | float x, float y => x == y && x != .nan
    | moment k _ q, moment k' _ q' => k == k' && q == q'
    | _, _ => false
  | _, _ => false

/-- Sets a key: an entry that is there keeps its place. -/
def setEntry (key value : Value) : List (Value × Value) → List (Value × Value)
  | [] => [(key, value)]
  | (k, v) :: es => if k.sameKey key then (k, value) :: es else (k, v) :: setEntry key value es

def isString (s : String) : Value → Bool
  | str t => t == s
  | _ => false

/-- The value of a text key. -/
def lookup (key : String) (entries : List (Value × Value)) : Option Value :=
  (entries.find? fun e => e.1.isString key).map (·.2)

/-- The value of a text key, null where there is none. -/
def get (key : String) (entries : List (Value × Value)) : Value := (lookup key entries).getD null

end Value

end ComponentLint
