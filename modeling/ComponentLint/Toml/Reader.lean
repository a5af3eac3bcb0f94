import ComponentLint.Toml.Literal

/-!
TOML documents. A table may be opened once, a key may be set once, and what is written as a value
is closed: nothing can be added to it later. These rules are kept as marks on keys. The program runs
with this reader; nothing is proved of it.
-/

namespace ComponentLint.Toml

abbrev Key := List String

abbrev Entries := List (Value × Value)

/-! ### Tables -/

/-- Changes the table behind a key, which is made where it is missing; of a list of tables the
last one is meant, where lists may be entered at all. -/
def changeAt? (enterLists : Bool) (f : Entries → Option Entries) : Key → Entries → Option Entries
  | [], es => f es
  | k :: ks, es =>
    let put := fun v => Value.setEntry (.str k) v es
    match Value.lookup k es with
    | none => (changeAt? enterLists f ks []).map fun sub => put (.map sub)
    | some (.map sub) => (changeAt? enterLists f ks sub).map fun sub => put (.map sub)
    | some (.list items) =>
      match enterLists, items.getLast? with
      | true, some (.map sub) =>
        (changeAt? enterLists f ks sub).map fun sub => put (.list (items.dropLast ++ [.map sub]))
      | _, _ => none
    | some _ => none

/-- Sets a key that is not there. -/
def setNew? (name : String) (v : Value) (es : Entries) : Option Entries :=
  if (Value.lookup name es).isSome then none else some (es ++ [(.str name, v)])

/-- Adds an empty table to a list of tables. -/
def appendTable? (name : String) (es : Entries) : Option Entries :=
  match Value.lookup name es with
  | none => some (es ++ [(.str name, .list [.map []])])
  | some (.list items) => some (Value.setEntry (.str name) (.list (items ++ [.map []])) es)
  | some _ => none

def isCollection : Value → Bool
  | .map _ | .list _ => true
  | _ => false

/-! ### Values -/

/-- `key = value`, given how to read a value. -/
def pairWith (value : List Char → Except ReadFailure (Value × List Char)) (s : List Char) :
    Except ReadFailure (Key × Value × List Char) := do
  let (key, rest) ← ReadFailure.ofOption (key? (s.length + 1) s)
  match rest with
  | '=' :: rest =>
    let (v, rest) ← value (skipBlanks rest)
    return (key, v, rest)
  | _ => throw .invalid

/-- Sets a key of an inline table, unless it lies behind a closed value. -/
def setInline? (closed : List Key) (key : Key) (v : Value) (es : Entries) : Option Entries :=
  if closed.any (·.isPrefixOf key) then none
  else changeAt? false (setNew? (key.getLast?.getD "") v) key.dropLast es

mutual

def value : Nat → List Char → Except ReadFailure (Value × List Char)
  | 0, _ => .error .invalid
  | fuel + 1, s =>
    match s with
    | '[' :: rest =>
      match skipLines? (rest.length + 1) rest with
      | some (']' :: more) => .ok (.list [], more)
      | some more => items fuel [] more
      | none => .error .invalid
    | '{' :: rest =>
      match skipBlanks rest with
      | '}' :: more => .ok (.map [], more)
      | more => inline fuel [] [] more
    | _ => simple s

/-- The items of an array, those so far in reverse. -/
def items : Nat → List Value → List Char → Except ReadFailure (Value × List Char)
  | 0, _, _ => .error .invalid
  | fuel + 1, acc, s => do
    let (v, rest) ← value fuel s
    match skipLines? (rest.length + 1) rest with
    | some (']' :: more) => return (.list (v :: acc).reverse, more)
    | some (',' :: more) =>
      match skipLines? (more.length + 1) more with
      | some (']' :: more) => return (.list (v :: acc).reverse, more)
      | some more => items fuel (v :: acc) more
      | none => throw .invalid
    | _ => throw .invalid

/-- The pairs of an inline table, with the keys whose values are closed. -/
def inline : Nat → List Key → Entries → List Char → Except ReadFailure (Value × List Char)
  | 0, _, _, _ => .error .invalid
  | fuel + 1, closed, es, s => do
    let (key, v, rest) ← pairWith (value fuel) s
    let es ← ReadFailure.ofOption (setInline? closed key v es)
    match skipBlanks rest with
    | '}' :: more => return (.map es, more)
    | ',' :: more =>
      inline fuel (if isCollection v then key :: closed else closed) es (skipBlanks more)
    | _ => throw .invalid

end

/-! ### Documents -/

/-- A document so far. -/
structure State where
  entries : Entries := []
  /-- The table that keys are set in. -/
  header : Key := []
  /-- Keys whose tables may not be opened again. -/
  opened : List Key := []
  /-- Keys of values, behind which nothing can be set. -/
  closed : List Key := []
  /-- Keys that count as opened from the next header on. -/
  pending : List Key := []

def State.isClosed (s : State) (key : Key) : Bool := s.closed.any (·.isPrefixOf key)

/-- Sets a key in the current table. -/
def State.set? (s : State) (key : Key) (v : Value) : Option State :=
  let inner := (List.range (key.length - 1)).map fun i => s.header ++ key.take (i + 1)
  if inner.any s.opened.contains || s.isClosed (s.header ++ key.dropLast) then none
  else (changeAt? true (setNew? (key.getLast?.getD "") v) (s.header ++ key.dropLast) s.entries).map
    fun es => { s with
      entries := es
      pending := inner ++ s.pending
      closed := if isCollection v then (s.header ++ key) :: s.closed else s.closed }

/-- Opens a table. -/
def State.openTable? (s : State) (key : Key) : Option State :=
  let opened := s.pending ++ s.opened
  if opened.contains key || s.isClosed key then none
  else (changeAt? true some key s.entries).map fun es =>
    { s with entries := es, header := key, opened := key :: opened, pending := [] }

/-- Adds a table to a list and opens it; what lies behind it is free again. -/
def State.openItem? (s : State) (key : Key) : Option State :=
  if s.isClosed key then none
  else (changeAt? true (appendTable? (key.getLast?.getD "")) key.dropLast s.entries).map fun es =>
    { entries := es
      header := key
      opened := key :: (s.pending ++ s.opened).filter fun k => !key.isPrefixOf k
      closed := s.closed.filter fun k => !key.isPrefixOf k
      pending := [] }

/-- A header: of a table, or of a table in a list. -/
def header? (s : State) (text : List Char) : Option (State × List Char) :=
  match text with
  | '[' :: '[' :: rest => do
    let (key, rest) ← key? (rest.length + 1) (skipBlanks rest)
    match rest with
    | ']' :: ']' :: rest => some (← s.openItem? key, rest)
    | _ => none
  | '[' :: rest => do
    let (key, rest) ← key? (rest.length + 1) (skipBlanks rest)
    match rest with
    | ']' :: rest => some (← s.openTable? key, rest)
    | _ => none
  | _ => none

/-- One statement: a header, a pair, or nothing before a comment. -/
def statement (s : State) (text : List Char) : Except ReadFailure (State × List Char) :=
  match text with
  | '[' :: _ => ReadFailure.ofOption (header? s text)
  | '#' :: _ => .ok (s, text)
  | _ => do
    let (key, v, rest) ← pairWith (value (text.length + 1)) text
    return (← ReadFailure.ofOption (s.set? key v), rest)

/-- All statements, each on a line of its own. -/
def statements : Nat → State → List Char → Except ReadFailure State
  | 0, _, _ => .error .invalid
  | fuel + 1, s, text =>
    match skipBlanks text with
    | [] => .ok s
    | '\n' :: rest => statements fuel s rest
    | text => do
      let (s, rest) ← statement s text
      match ← ReadFailure.ofOption (skipComment? (skipBlanks rest)) with
      | [] => return s
      | '\n' :: rest => statements fuel s rest
      | _ => throw .invalid

/-- The top table of a document. -/
def parse (text : String) : Except ReadFailure Entries := do
  let s := Text.replace ['\r', '\n'] ['\n'] text.toList
  return (← statements (s.length + 1) {} s).entries

end ComponentLint.Toml
