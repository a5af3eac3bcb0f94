import ComponentLint.Fault
import ComponentLint.Number.Reading

/-!
JSON documents. Beyond the standard, `NaN`, `Infinity` and `-Infinity` are numbers; of a repeated
key the last value counts. Each reader takes a text and gives what it read with the rest; `fuel`
bounds the nesting and never runs out on a text shorter than it. A whole number with too many digits
stops the reader as soon as it is met, whatever follows.
-/

namespace ComponentLint.Json

open Number (Binary digitsValue)

def skipBlank (s : List Char) : List Char :=
  s.dropWhile fun c => c == ' ' || c == '\t' || c == '\n' || c == '\r'

def hexDigit? (c : Char) : Option Nat :=
  if Text.isAsciiDigit c then some (c.toNat - 48)
  else if 'a' ≤ c ∧ c ≤ 'f' then some (c.toNat - 87)
  else if 'A' ≤ c ∧ c ≤ 'F' then some (c.toNat - 55)
  else none

/-- The four hexadecimal digits of a code unit. -/
def codeUnit? : List Char → Option (Nat × List Char)
  | a :: b :: c :: d :: rest => do
    let n := ((← hexDigit? a) * 16 + (← hexDigit? b)) * 256 + (← hexDigit? c) * 16 + (← hexDigit? d)
    some (n, rest)
  | _ => none

/-- The code point at a code unit: the unit itself, or a pair of surrogates put together. -/
def codePoint? (s : List Char) : Option (Char × List Char) := do
  let (high, rest) ← codeUnit? s
  if 0xd800 ≤ high ∧ high < 0xdc00 then
    match rest with
    | '\\' :: 'u' :: more =>
      match codeUnit? more with
      | some (low, after) =>
        if 0xdc00 ≤ low ∧ low < 0xe000 then
          some (Char.ofNat (0x10000 + (high - 0xd800) * 1024 + (low - 0xdc00)), after)
        else some (Char.ofNat 0xfffd, rest)
      | none => some (Char.ofNat 0xfffd, rest)
    | _ => some (Char.ofNat 0xfffd, rest)
  else if 0xdc00 ≤ high ∧ high < 0xe000 then some (Char.ofNat 0xfffd, rest)
  else some (Char.ofNat high, rest)

/-- What a one-character escape stands for. -/
def escape? : Char → Option Char
  | '"' => some '"'
  | '\\' => some '\\'
  | '/' => some '/'
  | 'b' => some (Char.ofNat 8)
  | 'f' => some (Char.ofNat 12)
  | 'n' => some '\n'
  | 'r' => some '\r'
  | 't' => some '\t'
  | _ => none

/-- The inside of a string up to its closing quote, the characters read so far in reverse. -/
def stringBody? : Nat → List Char → List Char → Option (String × List Char)
  | 0, _, _ => none
  | fuel + 1, acc, s =>
    match s with
    | '"' :: rest => some (String.ofList acc.reverse, rest)
    | '\\' :: 'u' :: rest =>
      (codePoint? rest).bind fun r => stringBody? fuel (r.1 :: acc) r.2
    | '\\' :: c :: rest => (escape? c).bind fun e => stringBody? fuel (e :: acc) rest
    | c :: rest => if c.toNat < 32 then none else stringBody? fuel (c :: acc) rest
    | [] => none

/-- The value of a whole number, which may not have too many digits. -/
def whole (negative : Bool) (digits : List Char) : Except ReadFailure Value :=
  if digits.length ≤ Number.digitLimit then
    let n : Int := digitsValue digits
    .ok (.int (if negative then -n else n))
  else .error (.crash .badText)

/-- The exponent of a number with what comes after it, where there is one. -/
def exponent? : List Char → Option (Int × List Char)
  | [] => none
  | c :: r =>
    if c = 'e' ∨ c = 'E' then
      let (down, r) := Number.takeSign r
      let ds := r.takeWhile Text.isAsciiDigit
      if ds.isEmpty then none
      else some (if down then -(digitsValue ds : Int) else digitsValue ds, r.drop ds.length)
    else none

/-- The value of a number with its parts: without a fraction and an exponent it is a whole one. -/
def numeral (negative : Bool) (digits fraction : List Char) (exponent : Option Int) :
    Except ReadFailure Value :=
  match fraction, exponent with
  | [], none => whole negative digits
  | _, _ =>
    .ok (.float (.ofDecimal negative (digitsValue (digits ++ fraction))
      (exponent.getD 0 - fraction.length)))

/-- The minus in front of a number, and the rest. -/
def takeMinus : List Char → Bool × List Char
  | '-' :: r => (true, r)
  | r => (false, r)

/-- The digits in front of the point, with no zero before others. -/
def wholeDigits : List Char → List Char
  | '0' :: _ => ['0']
  | r => r.takeWhile Text.isAsciiDigit

/-- The digits after a point. -/
def fractionDigits : List Char → List Char
  | '.' :: r => r.takeWhile Text.isAsciiDigit
  | _ => []

/-- A number: whole digits, then a fraction and an exponent. -/
def number (s : List Char) : Except ReadFailure (Value × List Char) :=
  let (negative, t) := takeMinus s
  let digits := wholeDigits t
  let t := t.drop digits.length
  let fraction := fractionDigits t
  let t := if fraction.isEmpty then t else t.drop (fraction.length + 1)
  let exponent := exponent? t
  if digits.isEmpty then .error .invalid
  else do
    let v ← numeral negative digits fraction (exponent.map (·.1))
    return (v, (exponent.map (·.2)).getD t)

/-- The words that stand for values. -/
def constants : List (List Char × Value) :=
  [("null".toList, .null), ("true".toList, .bool true), ("false".toList, .bool false),
   ("NaN".toList, .float .nan), ("Infinity".toList, .float (.infinite false)),
   ("-Infinity".toList, .float (.infinite true))]

def constant? (s : List Char) : Option (Value × List Char) :=
  (constants.find? fun p => p.1.isPrefixOf s).map fun p => (p.2, s.drop p.1.length)

mutual

def value : Nat → List Char → Except ReadFailure (Value × List Char)
  | 0, _ => .error .invalid
  | fuel + 1, s =>
    match s with
    | '"' :: rest => do
      let (text, rest) ← ReadFailure.ofOption (stringBody? (rest.length + 1) [] rest)
      return (.str text, rest)
    | '[' :: rest =>
      match skipBlank rest with
      | ']' :: after => .ok (.list [], after)
      | more => items fuel [] more
    | '{' :: rest =>
      match skipBlank rest with
      | '}' :: after => .ok (.map [], after)
      | more => entries fuel [] more
    | _ =>
      match constant? s with
      | some r => .ok r
      | none => number s

/-- The items of a list after its bracket, those read so far in reverse. -/
def items : Nat → List Value → List Char → Except ReadFailure (Value × List Char)
  | 0, _, _ => .error .invalid
  | fuel + 1, acc, s => do
    let (v, rest) ← value fuel s
    match skipBlank rest with
    | ']' :: after => return (.list (v :: acc).reverse, after)
    | ',' :: more => items fuel (v :: acc) (skipBlank more)
    | _ => throw .invalid

/-- The entries of a mapping after its brace. -/
def entries : Nat → List (Value × Value) → List Char → Except ReadFailure (Value × List Char)
  | 0, _, _ => .error .invalid
  | fuel + 1, acc, s =>
    match s with
    | '"' :: rest => do
      let (key, rest) ← ReadFailure.ofOption (stringBody? (rest.length + 1) [] rest)
      match skipBlank rest with
      | ':' :: more =>
        let (v, rest) ← value fuel (skipBlank more)
        let acc := Value.setEntry (.str key) v acc
        match skipBlank rest with
        | '}' :: after => return (.map acc, after)
        | ',' :: more => entries fuel acc (skipBlank more)
        | _ => throw .invalid
      | _ => throw .invalid
    | _ => .error .invalid

end

/-- The value of a document. -/
def parse (text : String) : Except ReadFailure Value := do
  let s := skipBlank text.toList
  let (v, rest) ← value (2 * s.length + 2) s
  if (skipBlank rest).isEmpty then return v else throw .invalid

/-- The value of a document, if it is one. -/
def parse? (text : String) : Option Value := (parse text).toOption

end ComponentLint.Json
