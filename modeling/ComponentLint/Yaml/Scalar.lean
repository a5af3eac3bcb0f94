import ComponentLint.Calendar
import ComponentLint.Fault
import ComponentLint.Json.Reader

/-!
What scalars stand for. A plain scalar without a tag is a boolean, a number, a date, null or a
merge mark if it is written like one, and a string otherwise. Numbers may have underscores
between their digits, a base, or parts to the base of sixty.
-/

namespace ComponentLint.Yaml

open Number (Binary digitsValue)

/-- The kinds of nodes that have tags of their own. -/
inductive Kind where
  | null
  | bool
  | int
  | float
  | str
  | timestamp
  | seq
  | map
  /-- The key under which mappings are merged. -/
  | merge
  /-- The key of a default value. -/
  | value
  | other
  deriving DecidableEq, Repr, Inhabited

def standardPrefix : String := "tag:yaml.org,2002:"

def Kind.ofTag (tag : String) : Kind :=
  match ([("null", null), ("bool", bool), ("int", int), ("float", float), ("str", str),
      ("timestamp", timestamp), ("seq", seq), ("map", map)] : List (String × Kind)).find?
        fun e => standardPrefix ++ e.1 == tag with
  | some e => e.2
  | none => other

/-! ### Forms of numbers -/

def isOctal (c : Char) : Bool := '0' ≤ c && c ≤ '7'

/-- Digits of a kind with underscores among them. -/
def isDigits (test : Char → Bool) (s : List Char) : Bool :=
  !s.isEmpty && s.all fun c => test c || c == '_'

/-- Digits that start with a proper one. -/
def isNumeral (s : List Char) : Bool :=
  (s.head?.map Text.isAsciiDigit).getD false && isDigits Text.isAsciiDigit s

/-- A part to the base of sixty after the first. -/
def isSixtieth : List Char → Bool
  | [d] => Text.isAsciiDigit d
  | [c, d] => '0' ≤ c && c ≤ '5' && Text.isAsciiDigit d
  | _ => false

def unsigned (s : List Char) : List Char := (Number.takeSign s).2

/-- Whole numbers without their sign. -/
def isInteger (s : List Char) : Bool :=
  match s with
  | ['0'] => true
  | '0' :: 'b' :: rest => isDigits (fun c => c == '0' || c == '1') rest
  | '0' :: 'x' :: rest => isDigits (fun c => (Json.hexDigit? c).isSome) rest
  | '0' :: rest => isDigits isOctal rest
  | _ =>
    match Text.splitOn ':' s with
    | first :: others => isNumeral first && others.all isSixtieth
    | [] => false

/-- An exponent with its sign, or nothing. -/
def isExponent : List Char → Bool
  | [] => true
  | e :: sign :: ds =>
    (e == 'e' || e == 'E') && (sign == '-' || sign == '+') && !ds.isEmpty &&
      ds.all Text.isAsciiDigit
  | _ => false

def isMarkOf (names : List String) (s : List Char) : Bool := names.contains (String.ofList s)

def isInfinity (s : List Char) : Bool := isMarkOf [".inf", ".Inf", ".INF"] s

def isNan (s : List Char) : Bool := isMarkOf [".nan", ".NaN", ".NAN"] s

def isNumeralPart (c : Char) : Bool := Text.isAsciiDigit c || c == '_'

/-- Numbers with a point. -/
def isFraction (s : List Char) : Bool :=
  let t := unsigned s
  let whole := t.takeWhile fun c => isNumeralPart c || c == ':'
  match t.drop whole.length with
  | '.' :: rest =>
    if whole.isEmpty then
      isNan s || isInfinity t || (s.head? == some '.' &&
        (rest.head?.map Text.isAsciiDigit).getD false &&
        isExponent (rest.dropWhile isNumeralPart))
    else match Text.splitOn ':' whole with
      | [w] => isNumeral w && isExponent (rest.dropWhile isNumeralPart)
      | w :: others => isNumeral w && others.all isSixtieth && rest.all isNumeralPart
      | [] => false
  | _ => false

/-! ### Values of numbers -/

def baseValue (base : Nat) (s : List Char) : Nat :=
  s.foldl (fun n c => n * base + (Json.hexDigit? c).getD 0) 0

/-- The value of a whole number; digits must be left once the underscores are gone, and not too many
of them in a decimal part. -/
def integerValue (text : List Char) : Except ReadFailure Value :=
  let (negative, s) := Number.takeSign (text.filter (· ≠ '_'))
  let n? : Option Nat := match s with
    | '0' :: 'b' :: [] | '0' :: 'x' :: [] => none
    | '0' :: 'b' :: ds => if ds.all fun c => c == '0' || c == '1' then some (baseValue 2 ds) else none
    | '0' :: 'x' :: ds =>
      if ds.all fun c => (Json.hexDigit? c).isSome then some (baseValue 16 ds) else none
    | '0' :: ds => if ds.all isOctal then some (baseValue 8 ds) else none
    | _ =>
      let parts := Text.splitOn ':' s
      if parts.all fun p =>
          !p.isEmpty && p.length ≤ Number.digitLimit && p.all Text.isAsciiDigit then
        some (parts.foldl (fun n p => n * 60 + digitsValue p) 0)
      else none
  match n? with
  | some n => .ok (.int (if negative then -(n : Int) else n))
  | none => .error (.crash .badText)

/-- The rounded sum of a number and a multiple of another; both are finite and not negative. -/
def addScaled (a b : Binary) (factor : Nat) : Binary :=
  match a, b with
  | .finite _ m e, .finite _ m' e' =>
    let product := match Binary.ratio m' e' with
      | (n, d) => Binary.ofRatio false (n * factor) d
    match product with
    | .finite _ m' e' =>
      let (n, d) := Binary.ratio m e
      let (n', d') := Binary.ratio m' e'
      Binary.ofRatio false (n * d' + n' * d) (d * d')
    | x => x
  | _, x => x

/-- The value of parts to the base of sixty, the last of which come first. -/
def sixtieths (acc : Binary) (factor : Nat) : List Binary → Binary
  | [] => acc
  | x :: xs => sixtieths (addScaled acc x factor) (factor * 60) xs

def negated (negative : Bool) : Binary → Binary
  | .finite n m e => .finite (n != negative) m e
  | .infinite n => .infinite (n != negative)
  | .nan => .nan

def fractionValue (text : List Char) : Except ReadFailure Value :=
  let (negative, s) := Number.takeSign ((text.filter (· ≠ '_')).map Char.toLower)
  if s = ".inf".toList then .ok (.float (.infinite negative))
  else if s = ".nan".toList then .ok (.float .nan)
  else match (Text.splitOn ':' s).mapM Number.read? with
    | some [x] => .ok (.float (negated negative x))
    | some xs => .ok (.float (negated negative (sixtieths (.finite false 0 (-1074)) 1 xs.reverse)))
    | none => .error (.crash .badText)

/-! ### Dates -/

/-- Digits of one of some lengths, and the rest. -/
def digits? (least most : Nat) (s : List Char) : Option (Nat × List Char) :=
  let ds := (s.take most).takeWhile Text.isAsciiDigit
  if ds.length < least then none else some (digitsValue ds, s.drop ds.length)

def symbol? (c : Char) : List Char → Option (List Char)
  | d :: rest => if d = c then some rest else none
  | [] => none

/-- A date of four, two and two digits. -/
def plainDate? (s : List Char) : Option Calendar.Date := do
  let (year, s) ← digits? 4 4 s
  let (month, s) ← digits? 2 2 (← symbol? '-' s)
  let (day, s) ← digits? 2 2 (← symbol? '-' s)
  if s.isEmpty then some ⟨year, month, day⟩ else none

/-- The difference from universal time, if one is given. -/
def offset? (s : List Char) : Option (Option Calendar.Offset) :=
  match s.dropWhile fun c => c == ' ' || c == '\t' with
  | [] => if s.isEmpty then some none else none
  | ['Z'] => some (some 0)
  | sign :: rest => do
    if sign ≠ '+' ∧ sign ≠ '-' then none
    else
      let (hours, rest) ← digits? 1 2 rest
      let (minutes, rest) ← match rest with
        | ':' :: r => digits? 2 2 r
        | r => some (0, r)
      if rest.isEmpty then
        let n : Int := hours * 60 + minutes
        some (some (if sign = '-' then -n else n))
      else none

/-- A date and a time of day. -/
def dateTime? (s : List Char) : Option (Calendar.Date × Calendar.Time × Option Calendar.Offset) := do
  let (year, s) ← digits? 4 4 s
  let (month, s) ← digits? 1 2 (← symbol? '-' s)
  let (day, s) ← digits? 1 2 (← symbol? '-' s)
  let s ← match s with
    | c :: rest =>
      if c = 'T' ∨ c = 't' then some rest
      else if c = ' ' ∨ c = '\t' then some (rest.dropWhile fun d => d == ' ' || d == '\t')
      else none
    | [] => none
  let (hour, s) ← digits? 1 2 s
  let (minute, s) ← digits? 2 2 (← symbol? ':' s)
  let (second, s) ← digits? 2 2 (← symbol? ':' s)
  let (fraction, s) := match s with
    | '.' :: r => (r.takeWhile Text.isAsciiDigit, r.dropWhile Text.isAsciiDigit)
    | r => ([], r)
  let offset ← offset? s
  some (⟨year, month, day⟩, ⟨hour, minute, second, Calendar.microseconds fraction⟩, offset)

def timestampValue (s : List Char) : Except ReadFailure Value :=
  match plainDate? s, dateTime? s with
  | some d, _ => if d.isValid then .ok (Calendar.ofDate d) else .error (.crash .badText)
  | none, some (d, t, o) =>
    if d.isValid && t.isValid && (o.map Calendar.isValidOffset).getD true then
      .ok (Calendar.ofDateTime d t o)
    else .error (.crash .badText)
  | none, none => .error (.crash .noOperation)

/-! ### Scalars -/

def trueWords : List String := ["yes", "Yes", "YES", "true", "True", "TRUE", "on", "On", "ON"]

def falseWords : List String := ["no", "No", "NO", "false", "False", "FALSE", "off", "Off", "OFF"]

def nullWords : List String := ["", "~", "null", "Null", "NULL"]

/-- What a plain scalar is written like. -/
def kindOf (text : String) : Kind :=
  let s := text.toList
  if trueWords.contains text || falseWords.contains text then .bool
  else if isFraction s then .float
  else if isInteger (unsigned s) then .int
  else if text = "<<" then .merge
  else if nullWords.contains text then .null
  else if (plainDate? s).isSome || (dateTime? s).isSome then .timestamp
  else if text = "=" then .value
  else .str

/-- The value of a scalar of a kind. -/
def scalarValue (kind : Kind) (text : String) : Except ReadFailure Value :=
  match kind with
  | .null => .ok .null
  | .bool =>
    let word := String.ofList (text.toList.map Char.toLower)
    if trueWords.contains word then .ok (.bool true)
    else if falseWords.contains word then .ok (.bool false)
    else .error (.crash .badText)
  | .int => integerValue text.toList
  | .float => fractionValue text.toList
  | .str => .ok (.str text)
  | .timestamp => timestampValue text.toList
  | _ => .error .invalid

end ComponentLint.Yaml
