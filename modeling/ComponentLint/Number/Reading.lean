import ComponentLint.Number.Binary
import ComponentLint.Text.Digit

/-!
Decimal numbers read from text: digits of any script, an underscore between two digits, a point,
an exponent, and the names of infinity and of the undefined number.
-/

namespace ComponentLint.Number

/-- The value of a run of decimal digits. -/
def digitsValue (s : List Char) : Nat :=
  s.foldl (fun n c => n * 10 + (Text.decimalValue? c).getD 0) 0

/-- Removes the underscores, each of which must stand between two digits. -/
def dropUnderscores : Bool → List Char → Option (List Char)
  | _, [] => some []
  | afterDigit, '_' :: cs =>
    if afterDigit && (cs.head?.map Text.isDecimal).getD false then dropUnderscores false cs
    else none
  | _, c :: cs => (dropUnderscores (Text.isDecimal c) cs).map (c :: ·)

/-- A sign in front, and the rest. -/
def takeSign : List Char → Bool × List Char
  | '-' :: cs => (true, cs)
  | '+' :: cs => (false, cs)
  | cs => (false, cs)

/-- An exponent mark with its signed digits, or nothing at all. -/
def exponent? : List Char → Option Int
  | [] => some 0
  | c :: cs =>
    if c = 'e' ∨ c = 'E' then
      let (negative, ds) := takeSign cs
      if ds.isEmpty || !ds.all Text.isDecimal then none
      else some (if negative then -(digitsValue ds : Int) else digitsValue ds)
    else none

/-- A decimal without sign: digits around an optional point, then an optional exponent. -/
def unsigned? (negative : Bool) (s : List Char) : Option Binary :=
  let whole := s.takeWhile Text.isDecimal
  let rest := s.dropWhile Text.isDecimal
  let (fraction, rest) := match rest with
    | '.' :: r => (r.takeWhile Text.isDecimal, r.dropWhile Text.isDecimal)
    | r => ([], r)
  if whole.isEmpty && fraction.isEmpty then none
  else (exponent? rest).map fun e =>
    .ofDecimal negative (digitsValue (whole ++ fraction)) (e - fraction.length)

def asciiLower (s : List Char) : List Char := s.map Char.toLower

/-- The number a text stands for, white space around it apart. -/
def read? (s : List Char) : Option Binary := do
  let s ← dropUnderscores false (Text.strip s)
  let (negative, body) := takeSign s
  let name := asciiLower body
  if name = "inf".toList ∨ name = "infinity".toList then some (.infinite negative)
  else if name = "nan".toList then some .nan
  else unsigned? negative body

end ComponentLint.Number
