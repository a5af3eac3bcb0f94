import ComponentLint.Json.Reader

/-!
A position in a YAML text and the pieces of text that stand for scalars: plain ones, which may run
over lines, quoted ones with escapes, and blocks, which are set off by their indentation.
-/

namespace ComponentLint.Yaml

/-- What is left of a text, and where it starts. -/
structure Cursor where
  rest : List Char
  index : Nat := 0
  line : Nat := 0
  column : Nat := 0

abbrev Reader := StateT Cursor Option

/-! ### Characters -/

def isBreak (c : Char) : Bool :=
  c == '\n' || c == '\r' || [0x85, 0x2028, 0x2029].contains c.toNat

/-- The end of the text or of a line. -/
def isLineEnd : Option Char → Bool
  | none => true
  | some c => isBreak c

/-- What separates tokens on a line, or ends it. -/
def isGap : Option Char → Bool
  | some ' ' | some '\t' => true
  | c => isLineEnd c

/-- A blank that is no tab, or the end of a line. -/
def isSpaceOrEnd (c : Option Char) : Bool := c == some ' ' || isLineEnd c

/-- The characters a text may consist of. -/
def isPrintable (c : Char) : Bool :=
  let n := c.toNat
  n == 9 || n == 10 || n == 13 || (0x20 ≤ n && n ≤ 0x7e) || n == 0x85 ||
    (0xa0 ≤ n && n ≤ 0xd7ff) || (0xe000 ≤ n && n ≤ 0xfffd) || 0x10000 ≤ n

/-- Characters of anchors and directive names. -/
def isNameChar (c : Char) : Bool :=
  Text.isAsciiDigit c || Text.isAsciiLetter c || c == '-' || c == '_'

/-! ### Moving -/

def Cursor.peek (c : Cursor) (n : Nat := 0) : Option Char := c.rest[n]?

/-- Moves over one character; a byte order mark takes no column. -/
def Cursor.next (c : Cursor) : Cursor :=
  match c.rest with
  | [] => c
  | ch :: rest =>
    if isBreak ch && !(ch == '\r' && rest.head? == some '\n') then
      ⟨rest, c.index + 1, c.line + 1, 0⟩
    else ⟨rest, c.index + 1, c.line, if ch.toNat = 0xfeff then c.column else c.column + 1⟩

def Cursor.forward : Nat → Cursor → Cursor
  | 0, c => c
  | n + 1, c => forward n c.next

def forward (n : Nat := 1) : Reader Unit := modify (Cursor.forward n)

def peek (n : Nat := 0) : Reader (Option Char) := do
  return (← get).peek n

/-- Takes the characters up to the first that fails a test. -/
def takeWhile (test : Char → Bool) : Reader (List Char) := do
  let s := (← get).rest.takeWhile test
  forward s.length
  return s

def skipSpaces : Reader Unit := do
  let _ ← takeWhile (· == ' ')

/-- A line break, as the character it stands for. -/
def lineBreak : Reader (List Char) := do
  match (← get).rest with
  | '\r' :: '\n' :: _ =>
    forward 2
    return ['\n']
  | c :: _ =>
    if c.toNat = 0x2028 ∨ c.toNat = 0x2029 then
      forward
      return [c]
    else if isBreak c then
      forward
      return ['\n']
    else return []
  | [] => return []

/-- Whether a document marker stands here, whatever the column. -/
def isMarker (c : Cursor) : Bool :=
  (c.rest.take 3 == ['-', '-', '-'] || c.rest.take 3 == ['.', '.', '.']) && isGap (c.peek 3)

/-- Repeats a step while it gives something; `fuel` is more than the length of the text. -/
def repeated {α : Type} (step : Reader (Option α)) : Nat → Reader (List α)
  | 0 => failure
  | fuel + 1 => do
    match ← step with
    | none => return []
    | some a => return a :: (← repeated step fuel)

def many {α : Type} (step : Reader (Option α)) : Reader (List α) := do
  repeated step ((← get).rest.length + 2)

/-- A break between two lines of one scalar: a single one counts as a space. -/
def folded (first : List Char) (others : List (List Char)) : List Char :=
  (if first ≠ ['\n'] then first else if others.isEmpty then [' '] else []) ++ others.flatten

/-! ### Plain scalars -/

/-- Whether a character ends a run of a plain scalar, given what follows it. -/
def endsPlain (inFlow : Bool) (c : Char) (after : Option Char) : Bool :=
  isGap (some c) ||
  (c == ':' && (isGap after || (inFlow && (after.map ",[]\x7b\x7d".toList.contains).getD false))) ||
  (inFlow && ",?[]\x7b\x7d".toList.contains c)

def plainRun (inFlow : Bool) : List Char → List Char
  | [] => []
  | c :: cs => if endsPlain inFlow c cs.head? then [] else c :: plainRun inFlow cs

/-- The further breaks and spaces between two lines of a plain scalar; `none` before a document
marker. -/
def plainBreaks : Reader (Option (List (List Char))) := do
  let breaks ← many (do
    let c ← get
    match c.peek with
    | some ' ' =>
      forward
      return some (some [])
    | some ch =>
      if isBreak ch then
        let b ← lineBreak
        if isMarker (← get) then return some none else return some (some b)
      else return none
    | none => return none)
  if breaks.any (·.isNone) then return none
  else return some ((breaks.filterMap id).filter (· ≠ []))

/-- The space between two runs of a plain scalar, empty where it ends, and whether it runs over a
line end. -/
def plainSpace : Reader (List Char × Bool) := do
  let spaces ← takeWhile (· == ' ')
  match ← peek with
  | some c =>
    if isBreak c then
      let first ← lineBreak
      if isMarker (← get) then return ([], true)
      match ← plainBreaks with
      | none => return ([], true)
      | some others => return (folded first others, true)
    else return (spaces, false)
  | none => return (spaces, false)

/-- The runs of a plain scalar with the spaces between them, and whether a line end came after the
last run. -/
def plainFrom (inFlow : Bool) (indent : Int) : Nat → List Char → Reader (List Char × Bool)
  | 0, _ => failure
  | fuel + 1, space => do
    let c ← get
    let run := plainRun inFlow c.rest
    if c.peek = some '#' ∨ run = [] then return ([], false)
    forward run.length
    let (next, broken) ← plainSpace
    let c ← get
    if next = [] ∨ c.peek = some '#' ∨ (!inFlow ∧ (c.column : Int) < indent) then
      return (space ++ run, broken)
    let (more, broken') ← plainFrom inFlow indent fuel next
    return (space ++ run ++ more, if more = [] then broken else broken')

def plainScalar (inFlow : Bool) (indent : Int) : Reader (List Char × Bool) := do
  plainFrom inFlow indent ((← get).rest.length + 1) []

/-! ### Quoted scalars -/

/-- What a one-character escape stands for. -/
def escapes : List (Char × Nat) :=
  [('0', 0), ('a', 7), ('b', 8), ('t', 9), ('\t', 9), ('n', 10), ('v', 11), ('f', 12), ('r', 13),
   ('e', 27), (' ', 32), ('"', 34), ('\\', 92), ('/', 47), ('N', 0x85), ('_', 0xa0), ('L', 0x2028),
   ('P', 0x2029)]

/-- How many hexadecimal digits an escape has. -/
def escapeWidth? : Char → Option Nat
  | 'x' => some 2
  | 'u' => some 4
  | 'U' => some 8
  | _ => none

/-- The breaks between two lines of a quoted scalar; a document marker may not stand there. -/
def quotedBreaks : Reader (List (List Char)) :=
  many (do
    if isMarker (← get) then failure
    let _ ← takeWhile fun c => c == ' ' || c == '\t'
    match ← peek with
    | some c => if isBreak c then return some (← lineBreak) else return none
    | none => return none)

/-- The space between two runs of a quoted scalar. -/
def quotedSpace : Reader (List Char) := do
  let spaces ← takeWhile fun c => c == ' ' || c == '\t'
  match ← peek with
  | none => failure
  | some c =>
    if isBreak c then
      let first ← lineBreak
      return folded first (← quotedBreaks)
    else return spaces

/-- An escape in a double-quoted scalar, from its backslash on. -/
def escape : Reader (List Char) := do
  forward
  match ← peek with
  | none => failure
  | some c =>
    match escapes.lookup c, escapeWidth? c with
    | some n, _ =>
      forward
      return [Char.ofNat n]
    | none, some width =>
      forward
      let ds := (← get).rest.take width
      let values := ds.filterMap Json.hexDigit?
      if values.length ≠ width then failure
      forward width
      return [Char.ofNat (values.foldl (fun n d => n * 16 + d) 0)]
    | none, none =>
      if isBreak c then
        let _ ← lineBreak
        return (← quotedBreaks).flatten
      else failure

/-- A run without spaces in a quoted scalar. -/
def quotedRun (double : Bool) : Reader (List Char) := do
  let pieces ← many (do
    let plain ← takeWhile fun c =>
      !(c == '\'' || c == '"' || c == '\\' || isGap (some c))
    if plain ≠ [] then return some plain
    match (← get).rest with
    | '\'' :: rest =>
      if double then
        forward
        return some ['\'']
      else if rest.head? = some '\'' then
        forward 2
        return some ['\'']
      else return none
    | '"' :: _ =>
      if double then return none
      forward
      return some ['"']
    | '\\' :: _ =>
      if double then return some (← escape)
      forward
      return some ['\\']
    | _ => return none)
  return pieces.flatten

/-- A quoted scalar. -/
def quotedScalar (quote : Char) : Reader (List Char) := do
  let double := quote == '"'
  forward
  let first ← quotedRun double
  let pieces ← many (do
    if (← peek) = some quote then
      forward
      return none
    let space ← quotedSpace
    return some (space ++ (← quotedRun double)))
  return first ++ pieces.flatten

/-! ### Block scalars -/

/-- Whether the line ends after a block are kept, dropped, or reduced to one. -/
inductive Chomping where
  | clip
  | strip
  | keep
  deriving DecidableEq

def chomping? : Option Char → Option Chomping
  | some '+' => some .keep
  | some '-' => some .strip
  | _ => none

/-- The indentation a block asks for. -/
def increment? : Reader (Option Nat) := do
  match ← peek with
  | some c =>
    if !Text.isAsciiDigit c then return none
    if c = '0' then failure
    forward
    return some (c.toNat - 48)
  | none => return none

def acceptChomping : Reader (Option Chomping) := do
  match chomping? (← peek) with
  | some c =>
    forward
    return some c
  | none => return none

/-- The indicators of a block in either order. -/
def blockIndicators : Reader (Chomping × Option Nat) := do
  let before ← acceptChomping
  let increment ← increment?
  let after ← if before.isSome then pure before
    else if increment.isSome then acceptChomping else pure none
  if !isSpaceOrEnd (← peek) then failure
  return (after.getD .clip, increment)

/-- The rest of a line, which may only hold a comment. -/
def ignoredLine : Reader Unit := do
  skipSpaces
  if (← peek) = some '#' then
    let _ ← takeWhile (!isBreak ·)
  if !isLineEnd (← peek) then failure
  let _ ← lineBreak

/-- The empty lines in front of a block, and the widest indentation among them and the first
line. -/
def blockIndentation : Reader (List (List Char) × Nat) := do
  let found ← many (do
    match ← peek with
    | some ' ' =>
      forward
      return some ([], (← get).column)
    | some c => if isBreak c then return some (← lineBreak, 0) else return none
    | none => return none)
  return ((found.map (·.1)).filter (· ≠ []), (found.map (·.2)).foldl max 0)

/-- Passes the spaces of an indentation. -/
def indentation (indent : Nat) : Reader Unit := do
  let c ← get
  forward ((c.rest.take (indent - c.column)).takeWhile (· == ' ')).length

/-- The empty lines between two lines of a block. -/
def blockBreaks (indent : Nat) : Reader (List (List Char)) := do
  indentation indent
  many (do
    match ← peek with
    | some c =>
      if isBreak c then
        let b ← lineBreak
        indentation indent
        return some b
      else return none
    | none => return none)

/-- Whether a line of a block starts here. -/
def atBlockLine (indent : Nat) : Reader Bool := do
  let c ← get
  return c.column = indent && c.peek.isSome

/-- Whether a line is indented further than its block. -/
def isSet (c : Option Char) : Bool := c == some ' ' || c == some '\t'

/-- The lines of a block after its empty lines; also the last break and the breaks after it. -/
def blockLines (fold : Bool) (indent : Nat) :
    Nat → List (List Char) → Reader (List Char × List Char × List (List Char))
  | 0, _ => failure
  | fuel + 1, breaks => do
    if !(← atBlockLine indent) then return ([], [], breaks)
    let set ← isSet <$> peek
    let line ← takeWhile (!isBreak ·)
    let last ← lineBreak
    let next ← blockBreaks indent
    let text := breaks.flatten ++ line
    if ← atBlockLine indent then
      let joined :=
        if fold && last == ['\n'] && !set && !isSet (← peek) then
          if next.isEmpty then [' '] else []
        else last
      let (more, last, rest) ← blockLines fold indent fuel next
      return (text ++ joined ++ more, last, rest)
    else return (text, last, next)

/-- A block scalar inside an indentation. -/
def blockScalar (fold : Bool) (outer : Int) : Reader (List Char) := do
  forward
  let (chomping, increment) ← blockIndicators
  ignoredLine
  let least := max 1 (outer + 1).toNat
  let (breaks, indent) ← match increment with
    | some n => do
      let indent := least + n - 1
      pure (← blockBreaks indent, indent)
    | none => do
      let (breaks, widest) ← blockIndentation
      pure (breaks, max least widest)
  let (text, last, rest) ← blockLines fold indent ((← get).rest.length + 1) breaks
  return text ++ (if chomping = .strip then [] else last) ++
    (if chomping = .keep then rest.flatten else [])

end ComponentLint.Yaml
