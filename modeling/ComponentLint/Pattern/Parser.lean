import ComponentLint.Pattern.Regex

/-!
The written form of regular expressions: groups, alternatives, classes, greedy, lazy and
possessive repetition, references, look-around of fixed width, and flags. A text that is not an
expression is refused; only that it is, not why, is of interest. Names of characters are not known
here. The program searches with these expressions; nothing is proved of them.
-/

namespace ComponentLint.Pattern

inductive SyntaxError where
  | invalid
  /-- A repetition count that is out of range. -/
  | tooLarge
  deriving DecidableEq, Repr

structure Flags where
  ascii : Bool := false
  ignoreCase : Bool := false
  lines : Bool := false
  dotAll : Bool := false
  verbose : Bool := false
  deriving DecidableEq, Repr

/-- The least and the greatest length a match can have; `none` is unbounded. -/
structure Width where
  least : Nat
  most : Option Nat
  deriving DecidableEq, Repr

namespace Width

def add (a b : Width) : Width := ⟨a.least + b.least, do return (← a.most) + (← b.most)⟩

def union (a b : Width) : Width := ⟨min a.least b.least, do return max (← a.most) (← b.most)⟩

def times (a : Width) (least : Nat) (most : Option Nat) : Width :=
  ⟨a.least * least, if a.most = some 0 then some 0 else do return (← a.most) * (← most)⟩

end Width

/-- What the parser knows: the rest of the text, the groups seen, those still open, and the flags
of the whole expression. -/
structure State where
  rest : List Char
  groupCount : Nat := 1
  openGroups : List Nat := []
  names : List (List Char × Nat) := []
  widths : List (Nat × Width) := []
  /-- The groups that conditions refer to. -/
  conditions : List Nat := []
  /-- Inside a look-behind, the first group that opened in it. -/
  behindFrom : Option Nat := none
  flags : Flags := {}

abbrev Reader := StateT State (Except SyntaxError)

namespace Reader

def fail {α : Type} : Reader α := throw .invalid

def peek : Reader (Option Char) := return (← get).rest.head?

def skip (n : Nat) : Reader Unit := modify fun s => { s with rest := s.rest.drop n }

def next? : Reader (Option Char) := do
  let c ← peek
  skip 1
  return c

def next : Reader Char := do
  match ← next? with
  | some c => return c
  | none => fail

/-- Takes a character if it is the next one. -/
def accept (c : Char) : Reader Bool := do
  if (← peek) = some c then
    skip 1
    return true
  else return false

def takeWhile (limit : Nat) (test : Char → Bool) : Reader (List Char) := do
  let taken := ((← get).rest.take limit).takeWhile test
  skip taken.length
  return taken

/-- The characters up to a terminator, which is taken too; there must be at least one. -/
def takeUntil (stop : Char) : Reader (List Char) := do
  let taken := (← get).rest.takeWhile (· ≠ stop)
  if taken.isEmpty ∨ taken.length = (← get).rest.length then fail
  else
    skip (taken.length + 1)
    return taken

end Reader

open Reader

/-! ### Parts without nesting -/

def isHexDigit (c : Char) : Bool :=
  Text.isAsciiDigit c || ('a' ≤ c && c ≤ 'f') || ('A' ≤ c && c ≤ 'F')

def isOctal (c : Char) : Bool := '0' ≤ c && c ≤ '7'

def digitIn (c : Char) : Nat :=
  if Text.isAsciiDigit c then c.toNat - 48 else if 'a' ≤ c then c.toNat - 87 else c.toNat - 55

def valueIn (base : Nat) (s : List Char) : Nat := s.foldl (fun n c => n * base + digitIn c) 0

/-- Exactly `n` hexadecimal digits as a character. -/
def hexChar (n : Nat) : Reader Char := do
  let ds ← takeWhile n isHexDigit
  let v := valueIn 16 ds
  if ds.length ≠ n ∨ 0x10ffff < v then fail else return Char.ofNat v

/-- The control characters that have an escape letter. -/
def controls : List (Char × Nat) :=
  [('a', 7), ('b', 8), ('f', 12), ('n', 10), ('r', 13), ('t', 9), ('v', 11), ('\\', 92)]

def category? (flags : Flags) : Char → Option ClassItem
  | 'd' => some (.category .digit false flags.ascii)
  | 'D' => some (.category .digit true flags.ascii)
  | 's' => some (.category .space false flags.ascii)
  | 'S' => some (.category .space true flags.ascii)
  | 'w' => some (.category .word false flags.ascii)
  | 'W' => some (.category .word true flags.ascii)
  | _ => none

def anchor? (flags : Flags) : Char → Option Anchor
  | 'A' => some (.start false)
  | 'Z' => some .veryEnd
  | 'b' => some (.boundary false flags.ascii)
  | 'B' => some (.boundary true flags.ascii)
  | _ => none

def single (flags : Flags) (c : Char) : Regex := .oneOf false flags.ignoreCase [.range c c]

/-- A numbered escape up to a given octal value. -/
def octalChar (ds : List Char) : Reader Char :=
  let v := valueIn 8 ds
  if 255 < v then fail else return Char.ofNat v

/-- The escapes that mean the same inside and outside classes. -/
def commonEscape (c : Char) : Reader Char := do
  match c with
  | 'x' => hexChar 2
  | 'u' => hexChar 4
  | 'U' => hexChar 8
  | _ => if Text.isAsciiLetter c then fail else return c

/-- An escape inside a class. -/
def classEscape (flags : Flags) (c : Char) : Reader ClassItem := do
  match controls.lookup c, category? flags c with
  | some n, _ => return .range (Char.ofNat n) (Char.ofNat n)
  | none, some k => return k
  | none, none =>
    let d ←
      if isOctal c then octalChar (c :: (← takeWhile 2 isOctal))
      else if Text.isAsciiDigit c then fail
      else commonEscape c
    return .range d d

/-- A group that may be referred to here: closed, and not part of the look-behind around. -/
def checkReference (index : Nat) : Reader Unit := do
  let s ← get
  if s.openGroups.contains index then fail
  match s.behindFrom with
  | some first => if first ≤ index then fail
  | none => return ()

def groupReference (flags : Flags) (index : Nat) : Reader Regex := do
  if index < (← get).groupCount then
    checkReference index
    return .reference index flags.ignoreCase
  else fail

/-- A reference to a group, or an octal character where three octal digits stand. -/
def numberEscape (flags : Flags) (c : Char) : Reader Regex := do
  match ← peek with
  | some d =>
    if Text.isAsciiDigit d then
      skip 1
      match ← peek with
      | some e =>
        if isOctal c && isOctal d && isOctal e then
          skip 1
          return single flags (← octalChar [c, d, e])
        else groupReference flags (valueIn 10 [c, d])
      | none => groupReference flags (valueIn 10 [c, d])
    else groupReference flags (valueIn 10 [c])
  | none => groupReference flags (valueIn 10 [c])

/-- An escape outside classes. -/
def escape (flags : Flags) (c : Char) : Reader Regex := do
  match anchor? flags c, category? flags c, controls.lookup c with
  | some a, _, _ => return .anchor a
  | none, some k, _ => return .oneOf false false [k]
  | none, none, some n => return single flags (Char.ofNat n)
  | none, none, none =>
    if c = '0' then
      let ds ← takeWhile 2 isOctal
      return single flags (Char.ofNat (valueIn 8 ds))
    else if Text.isAsciiDigit c then numberEscape flags c
    else return single flags (← commonEscape c)

/-- One member of a class that has already begun with `c`. -/
def classItem (flags : Flags) (c : Char) : Reader ClassItem := do
  if c = '\\' then classEscape flags (← next) else return .range c c

/-- The members of a class up to its bracket, those read so far in reverse. -/
def classItems (flags : Flags) : Nat → List ClassItem → Reader (List ClassItem)
  | 0, _ => fail
  | fuel + 1, acc => do
    let c ← next
    if c = ']' ∧ acc ≠ [] then return acc.reverse
    let low ← classItem flags c
    if !(← accept '-') then classItems flags fuel (low :: acc)
    else
      let d ← next
      if d = ']' then return (.range '-' '-' :: low :: acc).reverse
      match low, ← classItem flags d with
      | .range a b, .range a' b' =>
        if a = b ∧ a' = b' ∧ a ≤ a' then classItems flags fuel (.range a a' :: acc) else fail
      | _, _ => fail

def characterClass (flags : Flags) : Reader Regex := do
  let negated ← accept '^'
  let items ← classItems flags ((← get).rest.length + 1) []
  return .oneOf negated flags.ignoreCase items

/-- The bound above which a repetition count is out of range. -/
def repeatLimit : Nat := 4294967295

/-- The counts of a repetition in braces, or nothing when the braces are plain characters. -/
def counts? : Reader (Option (Nat × Option Nat)) := do
  let start ← get
  if start.rest.head? = some '}' then return none
  let low ← takeWhile start.rest.length Text.isAsciiDigit
  let comma ← accept ','
  let high ← if comma then takeWhile start.rest.length Text.isAsciiDigit else pure low
  if !(← accept '}') then
    set start
    return none
  let least := valueIn 10 low
  let most := if high.isEmpty then none else some (valueIn 10 high)
  if repeatLimit ≤ least ∨ repeatLimit ≤ most.getD 0 then throw .tooLarge
  if most.any (· < least) then fail
  return some (least, most)

/-! ### Flags -/

def setFlag (on : Bool) (flags : Flags) : Char → Flags
  | 'a' => { flags with ascii := on }
  | 'i' => { flags with ignoreCase := on }
  | 'm' => { flags with lines := on }
  | 's' => { flags with dotAll := on }
  | 'x' => { flags with verbose := on }
  | _ => flags

def isFlag (c : Char) : Bool := "iLmsxatu".toList.contains c

/-- The flag letters of a group and the character that ends them. -/
def flagLetters : Nat → List Char → Char → Reader (List Char × Char)
  | 0, _, _ => fail
  | fuel + 1, acc, c => do
    if !isFlag c || c = 'L' then fail
    let acc := acc ++ [c]
    if acc.contains 'a' ∧ acc.contains 'u' then fail
    let d ← next
    if d = ')' ∨ d = '-' ∨ d = ':' then return (acc, d) else flagLetters fuel acc d

/-- The flag letters to turn off, up to a colon. -/
def flagLettersOff : Nat → List Char → Char → Reader (List Char)
  | 0, _, _ => fail
  | fuel + 1, acc, c => do
    if !isFlag c || "auL".toList.contains c then fail
    let d ← next
    if d = ':' then return acc ++ [c] else flagLettersOff fuel (acc ++ [c]) d

/-- Flags for the whole expression, or for one group. -/
inductive FlagScope where
  | whole (on : List Char)
  | group (on off : List Char)

def flagScope (c : Char) : Reader FlagScope := do
  let fuel := (← get).rest.length + 1
  let (on, stop) ← if c = '-' then pure ([], '-') else flagLetters fuel [] c
  if stop = ')' then return .whole on
  let off ← if stop = '-' then flagLettersOff fuel [] (← next) else pure []
  if on.any off.contains ∨ (on ++ off).contains 't' then fail
  return .group on off

/-! ### Nested expressions -/

/-- What a repetition needs to know about the item before it. -/
inductive ItemKind where
  | plain
  | anchor
  | repeated
  deriving DecidableEq

/-- An item of a sequence with its width. -/
structure Item where
  regex : Regex
  width : Width
  kind : ItemKind := .plain

/-- Items read so far in reverse, as one expression. -/
def sequenceOf (items : List Item) : Regex × Width :=
  items.foldl (fun acc i => (if acc.2.2 then i.regex else .seq i.regex acc.1,
      (i.width.add acc.2.1, false))) (Regex.empty, (⟨0, some 0⟩, true))
    |> fun r => (r.1, r.2.1)

/-- Names of groups start with a letter and go on with word characters. -/
def isName (s : List Char) : Bool :=
  s.all Text.isWord && !(s.head?.map Text.isDigit).getD true

/-- Opens a group, numbering it and noting its name. -/
def openGroup (name : Option (List Char)) : Reader Nat := do
  let s ← get
  let index := s.groupCount
  let names ← match name with
    | none => pure s.names
    | some n => if (s.names.lookup n).isSome then fail else pure ((n, index) :: s.names)
  set { s with groupCount := index + 1, openGroups := index :: s.openGroups, names := names }
  return index

def closeGroup (index : Nat) (width : Width) : Reader Unit :=
  modify fun s =>
    { s with openGroups := s.openGroups.filter (· ≠ index), widths := (index, width) :: s.widths }

def widthOf (r : Regex) (default : Width) : Reader Width := do
  match r with
  | .reference i _ => return ((← get).widths.lookup i).getD default
  | .anchor _ => return ⟨0, some 0⟩
  | _ => return default

def isVerboseBlank (c : Char) : Bool := " \t\n\r\x0b\x0c".toList.contains c

/-- Repeats the latest item. -/
def repeatLast (least : Nat) (most : Option Nat) (items : List Item) : Reader (List Item) := do
  match items with
  | [] => fail
  | i :: rest =>
    if i.kind ≠ .plain then fail
    let lazy ← accept '?'
    let possessive ← if lazy then pure false else accept '+'
    let greed := if lazy then Greed.lazy else if possessive then .possessive else .greedy
    return ⟨.repeated i.regex least most greed, i.width.times least most, .repeated⟩ :: rest

/-- What a group that begins with `(?` comes to. -/
inductive Special where
  | item (i : Item)
  /-- A comment. -/
  | nothing
  /-- Flags for the whole expression. -/
  | flags (on : List Char)

mutual

/-- Alternatives up to a closing parenthesis or the end; `top` outside all groups. -/
def alternatives : Nat → Flags → Bool → Reader (Regex × Width)
  | 0, _, _ => fail
  | fuel + 1, flags, top => do
    let first ← sequence fuel flags top []
    if !(← accept '|') then return first
    let whole := (← get).flags
    let flags := if top then whole else flags
    let second ← otherAlternatives fuel flags
    return (.alt first.1 second.1, first.2.union second.2)

def otherAlternatives : Nat → Flags → Reader (Regex × Width)
  | 0, _ => fail
  | fuel + 1, flags => do
    let first ← sequence fuel flags false []
    if !(← accept '|') then return first
    let second ← otherAlternatives fuel flags
    return (.alt first.1 second.1, first.2.union second.2)

/-- A sequence of items, those read so far in reverse; flags of the whole expression may stand
where it `leads` and nothing has been read. -/
def sequence : Nat → Flags → Bool → List Item → Reader (Regex × Width)
  | 0, _, _, _ => fail
  | fuel + 1, flags, leads, items => do
    match ← peek with
    | none => return sequenceOf items
    | some c =>
      if c = '|' ∨ c = ')' then return sequenceOf items
      skip 1
      if flags.verbose && isVerboseBlank c then sequence fuel flags leads items
      else if flags.verbose && c == '#' then
        let line := (← get).rest.takeWhile (· ≠ '\n')
        skip (line.length + 1)
        sequence fuel flags leads items
      else
        let one : Width := ⟨1, some 1⟩
        match c with
        | '\\' =>
          let r ← escape flags (← next)
          let w ← widthOf r one
          let kind := match r with
            | .anchor _ => ItemKind.anchor
            | _ => .plain
          sequence fuel flags leads (⟨r, w, kind⟩ :: items)
        | '[' => sequence fuel flags leads (⟨← characterClass flags, one, .plain⟩ :: items)
        | '.' => sequence fuel flags leads (⟨.any flags.dotAll, one, .plain⟩ :: items)
        | '^' =>
          sequence fuel flags leads (⟨.anchor (.start flags.lines), ⟨0, some 0⟩, .anchor⟩ :: items)
        | '$' =>
          sequence fuel flags leads (⟨.anchor (.finish flags.lines), ⟨0, some 0⟩, .anchor⟩ :: items)
        | '?' => sequence fuel flags leads (← repeatLast 0 (some 1) items)
        | '*' => sequence fuel flags leads (← repeatLast 0 none items)
        | '+' => sequence fuel flags leads (← repeatLast 1 none items)
        | '{' =>
          match ← counts? with
          | some (least, most) => sequence fuel flags leads (← repeatLast least most items)
          | none => sequence fuel flags leads (⟨single flags '{', one, .plain⟩ :: items)
        | '(' =>
          if ← accept '?' then
            match ← special fuel flags (leads && items.isEmpty) with
            | .item i => sequence fuel flags leads (i :: items)
            | .nothing => sequence fuel flags leads items
            | .flags on =>
              let global := on.foldl (setFlag true) (← get).flags
              modify fun s => { s with flags := global }
              sequence fuel global leads items
          else sequence fuel flags leads ((← capture fuel flags none) :: items)
        | c => sequence fuel flags leads (⟨single flags c, one, .plain⟩ :: items)

/-- What stands after `(?`. -/
def special : Nat → Flags → Bool → Reader Special
  | 0, _, _ => fail
  | fuel + 1, flags, leads => do
    let c ← next
    match c with
    | 'P' =>
      if ← accept '<' then
        let name ← takeUntil '>'
        if !isName name then fail
        return .item (← capture fuel flags (some name))
      else if ← accept '=' then
        let name ← takeUntil ')'
        match (← get).names.lookup name with
        | none => fail
        | some index =>
          checkReference index
          let r := Regex.reference index flags.ignoreCase
          return .item ⟨r, ← widthOf r ⟨0, none⟩, .plain⟩
      else fail
    | ':' =>
      let (r, w) ← enclosed fuel flags
      return .item ⟨r, w, .plain⟩
    | '>' =>
      let (r, w) ← enclosed fuel flags
      return .item ⟨.atomic r, w, .plain⟩
    | '#' =>
      let _ ← takeComment
      return .nothing
    | '=' =>
      let (r, _) ← enclosed fuel flags
      return .item ⟨.ahead false r, ⟨0, some 0⟩, .plain⟩
    | '!' =>
      let (r, _) ← enclosed fuel flags
      return .item ⟨.ahead true r, ⟨0, some 0⟩, .plain⟩
    | '<' =>
      let d ← next
      if d ≠ '=' ∧ d ≠ '!' then fail
      let outer := (← get).behindFrom
      modify fun s => { s with behindFrom := outer.orElse fun _ => some s.groupCount }
      let (r, w) ← enclosed fuel flags
      modify fun s => { s with behindFrom := outer }
      if w.most ≠ some w.least then fail
      return .item ⟨.behind (d == '!') w.least r, ⟨0, some 0⟩, .plain⟩
    | '(' =>
      let name ← takeUntil ')'
      let index ← conditionGroup name
      checkCondition index
      let (yes, w) ← sequence fuel flags false []
      let (no, w') ← if ← accept '|' then sequence fuel flags false [] else pure (.empty, ⟨0, some 0⟩)
      if !(← accept ')') then fail
      return .item ⟨.ifGroup index yes no, w.union w', .plain⟩
    | c =>
      if !isFlag c && c != '-' then fail
      match ← flagScope c with
      | .whole on => if leads then return .flags on else fail
      | .group on off =>
        let inner := off.foldl (setFlag false) (on.foldl (setFlag true) flags)
        let inner := if on.contains 'u' then { inner with ascii := false } else inner
        let (r, w) ← enclosed fuel inner
        return .item ⟨r, w, .plain⟩
  where
    takeComment : Reader Unit := do
      let text := (← get).rest.takeWhile (· ≠ ')')
      if text.length = (← get).rest.length then fail
      skip (text.length + 1)
    conditionGroup (name : List Char) : Reader Nat := do
      if isName name then
        match (← get).names.lookup name with
        | some index => return index
        | none => fail
      else if name.all Text.isAsciiDigit then
        let index := valueIn 10 name
        if index = 0 then fail
        modify fun s => { s with conditions := index :: s.conditions }
        return index
      else fail
    checkCondition (index : Nat) : Reader Unit := do
      match (← get).behindFrom with
      | some first => if first ≤ index then fail
      | none => return ()

/-- Alternatives up to a closing parenthesis, which is taken. -/
def enclosed : Nat → Flags → Reader (Regex × Width)
  | 0, _ => fail
  | fuel + 1, flags => do
    let r ← alternatives fuel flags false
    if !(← accept ')') then fail
    return r

/-- A group that is remembered. -/
def capture : Nat → Flags → Option (List Char) → Reader Item
  | 0, _, _ => fail
  | fuel + 1, flags, name => do
    let index ← openGroup name
    let (r, w) ← enclosed fuel flags
    closeGroup index w
    return ⟨.group index r, w, .plain⟩

end

/-- The expression a text is the written form of. -/
def parse (text : String) : Except SyntaxError Regex := do
  let s := text.toList
  let ((r, _), final) ← (alternatives (4 * s.length + 8) {} true).run { rest := s }
  if !final.rest.isEmpty ∨ final.conditions.any (final.groupCount ≤ ·) then throw .invalid
  return r

end ComponentLint.Pattern
