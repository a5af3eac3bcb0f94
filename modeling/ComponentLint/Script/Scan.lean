import ComponentLint.Script.Node

/-!
Reading script text from left to right. A token is read together with the blanks and comments in
front of it; comments are put aside with their ranges. Where a statement may end without a
semicolon is decided by what follows the last token.
-/

namespace ComponentLint.Script.Scan

/-- What is left of the text, its byte offset, the end of the last token, and the comments so
far, the latest first. -/
structure State where
  rest : List Char
  offset : Nat := 0
  stop : Nat := 0
  comments : List Node := []

abbrev Reader := StateT State Option

/-! ### Characters -/

def byteLength : List Char → Nat
  | [] => 0
  | c :: cs => c.utf8Size + byteLength cs

def isLineEnd (c : Char) : Bool := c == '\n' || c.toNat == 0x2028 || c.toNat == 0x2029

/-- White space of plain ASCII. -/
def isPlainBlank (c : Char) : Bool := c == ' ' || (9 ≤ c.toNat && c.toNat ≤ 13)

/-- Space separators beyond ASCII. -/
def isSeparator (c : Char) : Bool :=
  let n := c.toNat
  n == 0xa0 || n == 0x1680 || (0x2000 ≤ n && n ≤ 0x200a) || n == 0x202f || n == 0x205f ||
    n == 0x3000

/-- Characters that only separate tokens. -/
def isBlank (c : Char) : Bool :=
  isPlainBlank c || isSeparator c || isLineEnd c ||
    [0xfeff, 0x2060, 0x200b].contains c.toNat

def isPunctuation (c : Char) : Bool := ":;`\"'@#.,|^&<=>+-*/\\%?!~()[]\x7b\x7d".toList.contains c

/-- Characters of a name after the first. -/
def isNamePart (c : Char) : Bool := !(c.toNat < 32 || isBlank c || isPunctuation c)

def isHex (c : Char) : Bool :=
  Text.isAsciiDigit c || ('a' ≤ c && c ≤ 'f') || ('A' ≤ c && c ≤ 'F')

/-- The length of a code point escape, zero where there is none. -/
def escapeLength : List Char → Nat
  | '\\' :: 'u' :: '{' :: rest =>
    let ds := rest.takeWhile isHex
    if !ds.isEmpty && (rest.drop ds.length).head? == some '}' then ds.length + 4 else 0
  | '\\' :: 'u' :: rest => if (rest.take 4).length = 4 ∧ (rest.take 4).all isHex then 6 else 0
  | _ => 0

/-- The name a text starts with; `skip` counts the characters of an escape still to be taken. -/
def nameFrom : Nat → List Char → List Char
  | _, [] => []
  | skip + 1, c :: cs => c :: nameFrom skip cs
  | 0, c :: cs =>
    if isNamePart c then c :: nameFrom 0 cs
    else match escapeLength (c :: cs) with
      | 0 => []
      | n + 1 => c :: nameFrom n cs

def nameAt (s : List Char) : List Char :=
  if (s.head?.map Text.isAsciiDigit).getD true then [] else nameFrom 0 s

/-! ### Blanks and comments -/

/-- The length of a block comment after its opening. -/
def blockLength : List Char → Option Nat
  | '*' :: '/' :: _ => some 2
  | _ :: cs => (blockLength cs).map (· + 1)
  | [] => none

/-- The comment a text starts with, as its kind and length. Where an operand is expected, `<!--`
and `-->` open one too. -/
def commentAt (operand : Bool) (s : List Char) : Option (String × Nat) :=
  match s with
  | '/' :: '/' :: _ =>
    some ("comment", (s.takeWhile fun c => !isLineEnd c && c != '\r').length)
  | '/' :: '*' :: rest => (blockLength rest).map fun n => ("comment", n + 2)
  | _ =>
    if operand && ("<!--".toList.isPrefixOf s || "-->".toList.isPrefixOf s) then
      some ("html_comment", (s.takeWhile (!isLineEnd ·)).length)
    else none

/-- Moves over `n` characters. -/
def State.forward (s : State) (n : Nat) : State :=
  { s with rest := s.rest.drop n, offset := s.offset + byteLength (s.rest.take n) }

/-- Passes the comment at the current position. -/
def State.passComment (s : State) (kind : String) (n : Nat) : State :=
  let next := s.forward n
  { next with comments := .mk kind s.offset next.offset none true [] :: s.comments }

/-- Passes blanks and comments; `fuel` is more than the length of the text. -/
def State.skip (operand : Bool) : Nat → State → State
  | 0, s => s
  | fuel + 1, s =>
    match commentAt operand s.rest with
    | some (kind, n) => skip operand fuel (s.passComment kind n)
    | none =>
      match s.rest with
      | c :: _ => if isBlank c then skip operand fuel (s.forward 1) else s
      | [] => s

/-- The state at the next token. -/
def State.atToken (s : State) : State := s.skip false (s.rest.length + 1)

/-- Passes blanks and comments where an operand or a statement is to begin. -/
def beginOperand : Reader Unit := modify fun s => s.skip true (s.rest.length + 1)

/-! ### Ends of statements -/

/-- What a look at blanks and comments tells about a possible end of a statement. -/
inductive Glance where
  /-- A slash that opens no comment. -/
  | refused
  /-- A comment within a line. -/
  | sameLine
  /-- Blanks and comments up to something else. -/
  | passed

/-- Looks past blanks and comments; unless `thorough`, no further than the first block comment. -/
def glance (thorough : Bool) : Nat → Bool → List Char → Glance × List Char
  | 0, _, s => (.passed, s)
  | fuel + 1, brokenBlock, s =>
    match s.dropWhile isPlainBlank with
    | '/' :: '/' :: rest => glance thorough fuel brokenBlock (rest.dropWhile (!isLineEnd ·))
    | '/' :: '*' :: rest =>
      let n := (blockLength rest).getD rest.length
      let broken := brokenBlock || (rest.take n).any isLineEnd
      let after := rest.drop n
      if !thorough && after.head? != some '/' then
        (if broken then .passed else .sameLine, after)
      else glance thorough fuel broken after
    | '/' :: rest => (.refused, rest)
    | t => (.passed, t)

/-- Whether a new line that begins with this text starts a new statement. -/
def startsStatement : List Char → Bool
  | [] => true
  | '.' :: rest => (rest.head?.map Text.isAsciiDigit).getD false
  | '+' :: rest => rest.head? == some '+'
  | '-' :: rest => rest.head? == some '-'
  | '!' :: rest => rest.head? != some '='
  | 'i' :: 'n' :: rest =>
    let isLetter := fun (c : Option Char) => (c.map Text.isAsciiLetter).getD false
    if !isLetter rest.head? then false
    else !("stanceof".toList.isPrefixOf rest && !isLetter (rest.drop 8).head?)
  | c :: _ => !("`,:;*%><=[(?^|&/".toList.contains c)

/-- Whether a statement ends here without a semicolon: at the end of the text, before a closing
brace, or before a new line that starts a statement. After an expression a comment alone does not
end it. -/
def endsHere (afterExpression : Bool) : Nat → List Char → Bool
  | 0, _ => false
  | _ + 1, [] => true
  | fuel + 1, c :: cs =>
    let (verdict, s) := if c = '/' then glance false (cs.length + 2) false (c :: cs)
      else (.sameLine, c :: cs)
    match verdict with
    | .refused => false
    | _ =>
      let passed := match verdict with
        | .passed => true
        | _ => false
      if passed && !afterExpression && s.head? != some ',' && s.head? != some '=' then true
      else match s with
        | [] => false
        | d :: ds =>
          if d = '}' then true
          else if isLineEnd d then
            match glance true (ds.length + 2) false ds with
            | (.refused, _) => false
            | (_, t) => startsStatement t
          else if isPlainBlank d then endsHere afterExpression fuel ds
          else false

/-- Ends a statement. Comments after which it ends, where it did not end before them, belong to
it. -/
def semicolonFrom (afterExpression : Bool) : Nat → Reader Unit
  | 0 => failure
  | fuel + 1 => do
    let s ← get
    if endsHere afterExpression (s.rest.length + 1) s.rest then
      modify fun s => { s with stop := s.offset }
    else
      let t := { s with
        rest := s.rest.dropWhile isBlank
        offset := s.offset + byteLength (s.rest.takeWhile isBlank) }
      match t.rest with
      | ';' :: _ =>
        let u := t.forward 1
        set { u with stop := u.offset }
      | _ =>
        match commentAt false t.rest with
        | some (kind, n) =>
          set (t.passComment kind n)
          semicolonFrom afterExpression fuel
        | none => failure

def semicolon (afterExpression : Bool) : Reader Unit := do
  semicolonFrom afterExpression ((← get).rest.length + 1)

/-- The state after the comments that a block takes in: those after which a statement could end,
where it could not end before them. -/
def State.withTrailing (afterExpression : Bool) : Nat → State → Option State
  | 0, _ => none
  | fuel + 1, s =>
    if endsHere afterExpression (s.rest.length + 1) s.rest then some { s with stop := s.offset }
    else
      let t := { s with
        rest := s.rest.dropWhile isBlank
        offset := s.offset + byteLength (s.rest.takeWhile isBlank) }
      match commentAt false t.rest with
      | some (kind, n) => withTrailing afterExpression fuel (t.passComment kind n)
      | none => none

/-- Ends a block, which may take in the comments after it. -/
def endBlock (afterExpression : Bool) : Reader Unit :=
  modify fun s => (s.withTrailing afterExpression (s.rest.length + 1)).getD s

/-! ### Tokens -/

/-- Takes `n` characters right here. -/
def takeHere (n : Nat) : Reader Unit :=
  modify fun s =>
    let t := s.forward n
    { t with stop := t.offset }

/-- Takes the next `n` characters as a token. -/
def take (n : Nat) : Reader Unit := do
  modify State.atToken
  takeHere n

/-- The text from the next token on. -/
def upcoming : Reader (List Char) := do
  return (← get).atToken.rest

/-- The offset of the next token. -/
def here : Reader Nat := do
  return (← get).atToken.offset

def isNext (symbol : String) : Reader Bool := do
  return symbol.toList.isPrefixOf (← upcoming)

/-- Takes a symbol if it comes next. -/
def accept (symbol : String) : Reader Bool := do
  if ← isNext symbol then
    take symbol.length
    return true
  else return false

def expect (symbol : String) : Reader Unit := do
  if !(← accept symbol) then failure

/-- The name that comes next, empty when none does. -/
def nextName : Reader String := do
  return String.ofList (nameAt (← upcoming))

/-- Takes a word if it comes next. -/
def acceptWord (word : String) : Reader Bool := do
  if (← nextName) = word then
    take word.length
    return true
  else return false

def expectWord (word : String) : Reader Unit := do
  if !(← acceptWord word) then failure

/-- Whether there is a line end between the last token and the next one. -/
def onNewLine : Reader Bool := do
  let s ← get
  return (s.rest.take (s.rest.length - s.atToken.rest.length)).any fun c => isLineEnd c || c == '\r'

/-- Whether reading on succeeds with `true`; nothing is taken. -/
def lookahead (r : Reader Bool) : Reader Bool := do
  return (r.run' (← get)).getD false

/-- A token of `n` characters as a node without children. -/
def leaf (kind : String) (n : Nat) : Reader Node := do
  let start ← here
  take n
  return .mk kind start (← get).stop none true []

/-- A token of `n` characters right here, with no blanks before it. -/
def leafHere (kind : String) (n : Nat) : Reader Node := do
  let start := (← get).offset
  takeHere n
  return .mk kind start (← get).stop none true []

/-- A token that is punctuation or a keyword, for the field it fills. -/
def mark (field symbol : String) : Reader Node := do
  let start ← here
  take symbol.length
  return .mk symbol start (← get).stop (some field) false []

/-- A node from a start to the last token. -/
def finish (kind : String) (start : Nat) (children : List Node) : Reader Node := do
  return .mk kind start (← get).stop none true children

/-- The node as the content of a field. -/
def inField (name : String) : Node → Node
  | .mk kind start stop _ named children => .mk kind start stop (some name) named children

/-- Reads items until there is none; `fuel` is more than the length of the text. -/
def repeated {α : Type} (item : Reader (Option α)) : Nat → Reader (List α)
  | 0 => failure
  | fuel + 1 => do
    match ← item with
    | none => return []
    | some a => return a :: (← repeated item fuel)

def many {α : Type} (item : Reader (Option α)) : Reader (List α) := do
  repeated item ((← get).rest.length + 1)

/-- Items between commas up to a closing symbol, which is taken; an item may be left out. -/
def commaList (close : String) (item : Reader Node) : Reader (List Node) := do
  let items ← many (do
    if ← accept close then return none
    else if ← accept "," then return some []
    else return some [← item])
  return items.flatten

/-! ### Literals -/

/-- The length of a numeral; zero where there is none. -/
def numberLength (s : List Char) : Nat :=
  let digits := fun (test : Char → Bool) (t : List Char) =>
    (t.takeWhile fun c => test c || c == '_').length
  let based := fun (test : Char → Bool) (t : List Char) =>
    let n := 2 + digits test t
    n + (if (s.drop n).head? = some 'n' then 1 else 0)
  match s with
  | '0' :: x :: rest =>
    if x = 'x' ∨ x = 'X' then based isHex rest
    else if x = 'b' ∨ x = 'B' ∨ x = 'o' ∨ x = 'O' then based Text.isAsciiDigit rest
    else decimal digits
  | _ => decimal digits
where
  decimal (digits : (Char → Bool) → List Char → Nat) : Nat :=
    let whole := digits Text.isAsciiDigit s
    let t := s.drop whole
    if t.head? = some 'n' then whole + 1
    else
      let fraction := match t with
        | '.' :: r => 1 + digits Text.isAsciiDigit r
        | _ => 0
      let t := t.drop fraction
      let exponent := match t with
        | e :: r =>
          if e = 'e' ∨ e = 'E' then
            let sign := if r.head? = some '+' ∨ r.head? = some '-' then 1 else 0
            let n := digits Text.isAsciiDigit (r.drop sign)
            if n = 0 then 0 else 1 + sign + n
          else 0
        | [] => 0
      whole + fraction + exponent

/-- The length of an escape in a string, which begins with a backslash. -/
def stringEscapeLength : List Char → Nat
  | _ :: '\r' :: '\n' :: _ => 3
  | _ :: 'x' :: _ => 4
  | s@(_ :: 'u' :: _) => max 2 (escapeLength s)
  | _ :: c :: rest =>
    if '0' ≤ c ∧ c ≤ '7' then
      2 + ((rest.take 2).takeWhile fun d => '0' ≤ d && d ≤ '7').length
    else 2
  | s => s.length

/-- A string literal with its fragments and escapes. -/
def stringLiteral : Reader Node := do
  let start ← here
  match ← upcoming with
  | quote :: _ =>
    if quote ≠ '\'' ∧ quote ≠ '"' then failure
    take 1
    let parts ← many (do
      match (← get).rest with
      | [] => failure
      | c :: _ =>
        let s := (← get).rest
        if c = quote then
          takeHere 1
          return none
        else if c = '\\' then return some (← leafHere "escape_sequence" (stringEscapeLength s))
        else
          let n := (s.takeWhile fun d => d != quote && d != '\\' && d != '\n' && d != '\r').length
          if n = 0 then failure
          return some (← leafHere "string_fragment" n))
    finish "string" start parts
  | [] => failure

/-- The length of a regular expression's pattern up to its closing slash. -/
def patternLength : Bool → List Char → Option Nat
  | _, [] => none
  | inClass, c :: cs =>
    if c = '\n' then none
    else if c = '\\' then
      match cs with
      | [] => none
      | _ :: ds => (patternLength inClass ds).map (· + 2)
    else if inClass then (patternLength (c != ']') cs).map (· + 1)
    else if c = '/' then some 0
    else (patternLength (c == '[') cs).map (· + 1)

/-- A regular expression literal. -/
def regexLiteral : Reader Node := do
  let start ← here
  take 1
  match patternLength false (← get).rest with
  | none => failure
  | some n =>
    let pattern ← leafHere "regex_pattern" n
    takeHere 1
    let flags := (← get).rest.takeWhile fun c => 'a' ≤ c && c ≤ 'z'
    if flags.isEmpty then finish "regex" start [inField "pattern" pattern]
    else
      let f ← leafHere "regex_flags" flags.length
      finish "regex" start [inField "pattern" pattern, inField "flags" f]

/-- The length of the plain characters of a template. -/
def templateLength : List Char → Nat
  | [] => 0
  | '$' :: '{' :: _ => 0
  | c :: cs => if c = '`' ∨ c = '\\' then 0 else 1 + templateLength cs

/-- A template literal, given how to read the expressions in it. -/
def templateLiteral (expressions : Reader Node) : Reader Node := do
  let start ← here
  take 1
  let parts ← many (do
    let s := (← get).rest
    match s with
    | [] => failure
    | '`' :: _ =>
      takeHere 1
      return none
    | '$' :: '{' :: _ =>
      let begun := (← get).offset
      takeHere 2
      let e ← expressions
      expect "\x7d"
      return some (← finish "template_substitution" begun [e])
    | '\\' :: _ => return some (← leafHere "escape_sequence" (stringEscapeLength s))
    | _ => return some (← leafHere "string_fragment" (templateLength s)))
  finish "template_string" start parts

end ComponentLint.Script.Scan
