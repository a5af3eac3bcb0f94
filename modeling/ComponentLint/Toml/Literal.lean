import ComponentLint.Calendar
import ComponentLint.Json.Reader

/-!
TOML literals: keys, strings, numbers, dates and times. Each reader gives what it read with the
rest of the text.
-/

namespace ComponentLint.Toml

open Number (digitsValue)

/-! ### Blanks -/

def isBlank (c : Char) : Bool := c == ' ' || c == '\t'

def skipBlanks (s : List Char) : List Char := s.dropWhile isBlank

/-- Control characters other than a tab. -/
def isControl (c : Char) : Bool := (c.toNat < 32 && c != '\t') || c.toNat == 127

/-- Passes a comment, which may hold no control character. -/
def skipComment? (s : List Char) : Option (List Char) :=
  match s with
  | '#' :: rest =>
    if (rest.takeWhile (· ≠ '\n')).any isControl then none else some (rest.dropWhile (· ≠ '\n'))
  | _ => some s

/-- Passes blanks, line ends and comments. -/
def skipLines? : Nat → List Char → Option (List Char)
  | 0, _ => none
  | fuel + 1, s => do
    let rest ← skipComment? (s.dropWhile fun c => isBlank c || c == '\n')
    if rest.length = s.length then some rest else skipLines? fuel rest

/-! ### Strings -/

/-- A code point of some hexadecimal digits. -/
def codePoint? (width : Nat) (s : List Char) : Option (Char × List Char) :=
  let values := (s.take width).filterMap Json.hexDigit?
  let n := values.foldl (fun n d => n * 16 + d) 0
  if values.length = width ∧ n.isValidChar then some (Char.ofNat n, s.drop width) else none

/-- What an escape stands for, after its backslash; in a string of several lines it may stand for
the blanks around a line end. -/
def escape? (multiline : Bool) (s : List Char) : Option (List Char × List Char) :=
  let isSpace := fun (c : Char) => isBlank c || c == '\n'
  match s with
  | 'b' :: rest => some ([Char.ofNat 8], rest)
  | 't' :: rest => some (['\t'], rest)
  | 'n' :: rest => some (['\n'], rest)
  | 'f' :: rest => some ([Char.ofNat 12], rest)
  | 'r' :: rest => some (['\r'], rest)
  | '"' :: rest => some (['"'], rest)
  | '\\' :: rest => some (['\\'], rest)
  | 'u' :: rest => (codePoint? 4 rest).map fun r => ([r.1], r.2)
  | 'U' :: rest => (codePoint? 8 rest).map fun r => ([r.1], r.2)
  | c :: rest =>
    if !multiline || !isSpace c then none
    else if c = '\n' then some ([], rest.dropWhile isSpace)
    else match skipBlanks rest with
      | [] => some ([], [])
      | '\n' :: more => some ([], more.dropWhile isSpace)
      | _ => none
  | [] => none

/-- The inside of a string in double quotes up to its end, with the characters so far in
reverse. -/
def basicBody? (multiline : Bool) : Nat → List Char → List Char → Option (List Char × List Char)
  | 0, _, _ => none
  | fuel + 1, acc, s =>
    match s with
    | [] => none
    | '"' :: rest =>
      if !multiline then some (acc.reverse, rest)
      else match rest with
        | '"' :: '"' :: more => some (acc.reverse, more)
        | _ => basicBody? multiline fuel ('"' :: acc) rest
    | '\\' :: rest =>
      (escape? multiline rest).bind fun (cs, more) =>
        basicBody? multiline fuel (cs.reverse ++ acc) more
    | c :: rest =>
      if isControl c && !(multiline && c == '\n') then none
      else basicBody? multiline fuel (c :: acc) rest

/-- A string in single quotes, after the first. -/
def literalBody? (rest : List Char) : Option (List Char × List Char) :=
  match Text.cut ['\''] rest with
  | some (body, more) => if body.any isControl then none else some (body, more)
  | none => none

/-- Up to two quotes more than the three that end a string belong to it. -/
def extraQuotes (quote : Char) (body rest : List Char) : List Char × List Char :=
  let extra := (rest.take 2).takeWhile (· = quote)
  (body ++ extra, rest.drop extra.length)

/-- Drops a line end right after the opening quotes. -/
def afterOpening : List Char → List Char
  | '\n' :: rest => rest
  | rest => rest

def string? (s : List Char) : Option (String × List Char) :=
  let result : Option (List Char × List Char) := match s with
    | '"' :: '"' :: '"' :: rest =>
      (basicBody? true (rest.length + 1) [] (afterOpening rest)).map fun r =>
        extraQuotes '"' r.1 r.2
    | '"' :: rest => basicBody? false (rest.length + 1) [] rest
    | '\'' :: '\'' :: '\'' :: rest =>
      (Text.cut ['\'', '\'', '\''] (afterOpening rest)).bind fun (body, more) =>
        if body.any fun c => isControl c && c != '\n' then none
        else some (extraQuotes '\'' body more)
    | '\'' :: rest => literalBody? rest
    | _ => none
  result.map fun r => (String.ofList r.1, r.2)

/-! ### Keys -/

def isBareKey (c : Char) : Bool :=
  Text.isAsciiLetter c || Text.isAsciiDigit c || c == '-' || c == '_'

/-- One part of a key: bare, or a string on one line. -/
def keyPart? (s : List Char) : Option (String × List Char) :=
  match s with
  | '"' :: rest =>
    (basicBody? false (rest.length + 1) [] rest).map fun r => (String.ofList r.1, r.2)
  | '\'' :: rest => (literalBody? rest).map fun r => (String.ofList r.1, r.2)
  | _ =>
    let bare := s.takeWhile isBareKey
    if bare.isEmpty then none else some (String.ofList bare, s.drop bare.length)

/-- A key of parts with points between them, and the blanks after it. -/
def key? : Nat → List Char → Option (List String × List Char)
  | 0, _ => none
  | fuel + 1, s => do
    let (part, rest) ← keyPart? s
    match skipBlanks rest with
    | '.' :: more =>
      let (parts, rest) ← key? fuel (skipBlanks more)
      some (part :: parts, rest)
    | rest => some ([part], rest)

/-! ### Dates and times -/

/-- A number of exactly two digits, up to a limit. -/
def twoDigits? (least most : Nat) (s : List Char) : Option (Nat × List Char) :=
  let ds := (s.take 2).takeWhile Text.isAsciiDigit
  let n := digitsValue ds
  if ds.length = 2 ∧ least ≤ n ∧ n ≤ most then some (n, s.drop 2) else none

def symbol? (c : Char) : List Char → Option (List Char)
  | d :: rest => if d = c then some rest else none
  | [] => none

def time? (s : List Char) : Option (Calendar.Time × List Char) := do
  let (hour, s) ← twoDigits? 0 23 s
  let (minute, s) ← twoDigits? 0 59 (← symbol? ':' s)
  let (second, s) ← twoDigits? 0 59 (← symbol? ':' s)
  let fraction := match s with
    | '.' :: r => r.takeWhile Text.isAsciiDigit
    | _ => []
  let rest := if fraction.isEmpty then s else s.drop (fraction.length + 1)
  some (⟨hour, minute, second, Calendar.microseconds fraction⟩, rest)

/-- The difference from universal time, if one is given. -/
def offset (s : List Char) : Option Calendar.Offset × List Char :=
  let signed := fun (sign : Int) (rest : List Char) => do
    let (hours, rest) ← twoDigits? 0 23 rest
    let (minutes, rest) ← twoDigits? 0 59 (← symbol? ':' rest)
    some (some (sign * (hours * 60 + minutes : Nat)), rest)
  let found := match s with
    | 'Z' :: rest | 'z' :: rest => some (some 0, rest)
    | '+' :: rest => signed 1 rest
    | '-' :: rest => signed (-1) rest
    | _ => none
  found.getD (none, s)

def date? (s : List Char) : Option (Calendar.Date × List Char) := do
  let year := (s.take 4).takeWhile Text.isAsciiDigit
  if year.length ≠ 4 then none
  let (month, s) ← twoDigits? 1 12 (← symbol? '-' (s.drop 4))
  let (day, s) ← twoDigits? 1 31 (← symbol? '-' s)
  some (⟨digitsValue year, month, day⟩, s)

/-- A date, with a time after it if there is one. -/
def moment? (s : List Char) : Option (Option Value × List Char) := do
  let (d, rest) ← date? s
  let timed := match rest with
    | c :: more => if c = 'T' ∨ c = 't' ∨ c = ' ' then time? more else none
    | [] => none
  match timed with
  | some (t, rest) =>
    let (o, rest) := offset rest
    some (if d.isValid then some (Calendar.ofDateTime d t o) else none, rest)
  | none => some (if d.isValid then some (Calendar.ofDate d) else none, rest)

/-! ### Numbers -/

/-- The length of a run of digits with single underscores between them. -/
def runLength (test : Char → Bool) : List Char → Nat
  | [] => 0
  | '_' :: c :: rest => if test c then 2 + runLength test rest else 0
  | c :: rest => if test c then 1 + runLength test rest else 0

/-- A run of digits that starts with one. -/
def run (test : Char → Bool) (s : List Char) : List Char :=
  if (s.head?.map test).getD false then s.take (runLength test s) else []

def baseValue (base : Nat) (s : List Char) : Nat :=
  (s.filterMap Json.hexDigit?).foldl (fun n d => n * base + d) 0

/-- Whole numbers to a base other than ten. -/
def based? (s : List Char) : Option (Value × List Char) :=
  let read := fun (base : Nat) (test : Char → Bool) (rest : List Char) =>
    let ds := run test rest
    if ds.isEmpty then none
    else some (Value.int (baseValue base ds), rest.drop ds.length)
  match s with
  | '0' :: 'x' :: rest => read 16 (fun c => (Json.hexDigit? c).isSome) rest
  | '0' :: 'b' :: rest => read 2 (fun c => c == '0' || c == '1') rest
  | '0' :: 'o' :: rest => read 8 (fun c => '0' ≤ c && c ≤ '7') rest
  | _ => none

/-- An exponent mark with its sign and digits. -/
def exponentText (s : List Char) : List Char :=
  match s with
  | e :: rest =>
    if e = 'e' ∨ e = 'E' then
      let sign := if rest.head? = some '+' ∨ rest.head? = some '-' then rest.take 1 else []
      let ds := run Text.isAsciiDigit (rest.drop sign.length)
      if ds.isEmpty then [] else e :: sign ++ ds
    else []
  | [] => []

/-- A decimal number, whole or with a fraction or an exponent; a whole one may have too many
digits. -/
def decimal? (s : List Char) : Option (Except ReadFailure Value × List Char) :=
  let (negative, t) := Number.takeSign s
  let whole := match t with
    | '0' :: _ => ['0']
    | _ => run Text.isAsciiDigit t
  if whole.isEmpty then none
  else
    let t := t.drop whole.length
    let fraction := match t with
      | '.' :: r => run Text.isAsciiDigit r
      | _ => []
    let point := if fraction.isEmpty then [] else '.' :: fraction
    let exponent := exponentText (t.drop point.length)
    let rest := t.drop (point.length + exponent.length)
    let plain := fun (cs : List Char) => cs.filter (· ≠ '_')
    if point.isEmpty && exponent.isEmpty then some (Json.whole negative (plain whole), rest)
    else
      (Number.unsigned? negative (plain (whole ++ point ++ exponent))).map fun x =>
        (.ok (.float x), rest)

/-- The names of infinity and of the undefined number. -/
def special? (s : List Char) : Option (Value × List Char) :=
  let (negative, t) := Number.takeSign s
  if "inf".toList.isPrefixOf t then some (.float (.infinite negative), t.drop 3)
  else if "nan".toList.isPrefixOf t then some (.float .nan, t.drop 3)
  else none

/-- A value without parts. -/
def simple (s : List Char) : Except ReadFailure (Value × List Char) :=
  match s with
  | '"' :: _ | '\'' :: _ => ReadFailure.ofOption ((string? s).map fun r => (.str r.1, r.2))
  | _ =>
    if "true".toList.isPrefixOf s then .ok (.bool true, s.drop 4)
    else if "false".toList.isPrefixOf s then .ok (.bool false, s.drop 5)
    else match moment? s with
      | some (v, rest) => ReadFailure.ofOption (v.map (·, rest))
      | none =>
        match time? s, based? s, decimal? s with
        | some (t, rest), _, _ => .ok (Calendar.ofTime t, rest)
        | none, some r, _ => .ok r
        | none, none, some (v, rest) => v.map (·, rest)
        | none, none, none => ReadFailure.ofOption (special? s)

end ComponentLint.Toml
