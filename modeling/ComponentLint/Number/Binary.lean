/-!
Double-precision numbers as exact data: a finite one is a sign, a mantissa and a power of two.
`ofDecimal` rounds a decimal to the nearest of them, a tie going to the even mantissa.
-/

namespace ComponentLint.Number

/-- A double-precision number. A finite one is `± mantissa * 2 ^ exponent`, where the mantissa
has 53 bits, or fewer at the least exponent -1074. -/
inductive Binary where
  | nan
  | infinite (negative : Bool)
  | finite (negative : Bool) (mantissa : Nat) (exponent : Int)
  deriving DecidableEq, Repr, Inhabited

namespace Binary

/-- The quotient rounded to the nearest natural number, a tie going to the even one. -/
def roundDiv (num den : Nat) : Nat :=
  let q := num / den
  let r := num % den
  if 2 * r < den then q else if den < 2 * r then q + 1 else if q % 2 = 0 then q else q + 1

/-- `num / den / 2 ^ e` as a fraction of natural numbers. -/
def scaled (num den : Nat) (e : Int) : Nat × Nat :=
  if e < 0 then (num * Nat.pow 2 (-e).toNat, den) else (num, den * Nat.pow 2 e.toNat)

/-- The least exponent from `-1074` on that leaves `num / den` at most 53 bits. -/
def exponentFor (num den : Nat) : Int :=
  let guess : Int := (Nat.log2 num : Int) - Nat.log2 den - 52
  let s := scaled num den guess
  let e := if s.1 < s.2 * Nat.pow 2 52 then guess - 1 else guess
  max e (-1074)

/-- The number nearest to `num / den`. -/
def ofRatio (negative : Bool) (num den : Nat) : Binary :=
  if num = 0 then .finite negative 0 (-1074)
  else
    let e := exponentFor num den
    let s := scaled num den e
    let m := roundDiv s.1 s.2
    let (m, e) := if m = Nat.pow 2 53 then (Nat.pow 2 52, e + 1) else (m, e)
    if 971 < e then .infinite negative else .finite negative m e

/-- How many decimal digits a number is written with; one for zero. -/
def digitCount (n : Nat) : Nat := (Nat.toDigits 10 n).length

/-- The number nearest to `± digits * 10 ^ exponent`. -/
def ofDecimal (negative : Bool) (digits : Nat) (exponent : Int) : Binary :=
  let size : Int := digitCount digits + exponent
  if digits = 0 ∨ size ≤ -324 then .finite negative 0 (-1074)
  else if 310 < size then .infinite negative
  else if exponent < 0 then ofRatio negative digits (Nat.pow 10 (-exponent).toNat)
  else ofRatio negative (digits * Nat.pow 10 exponent.toNat) 1

/-- The 64 bits of the interchange format. -/
def bits : Binary → Nat
  | .nan => 0x7ff8000000000000
  | .infinite negative => (if negative then 0x8000000000000000 else 0) + 0x7ff0000000000000
  | .finite negative m e =>
    let hidden := Nat.pow 2 52
    (if negative then 0x8000000000000000 else 0) +
      (if m < hidden then m else (e + 1075).toNat * hidden + (m - hidden))

/-- The magnitude of a finite number as a fraction. -/
def ratio (mantissa : Nat) (exponent : Int) : Nat × Nat :=
  if exponent < 0 then (mantissa, Nat.pow 2 (-exponent).toNat)
  else (mantissa * Nat.pow 2 exponent.toNat, 1)

/-- The integer a finite number equals, if any. -/
def toInt? : Binary → Option Int
  | .finite negative m e =>
    let r := ratio m e
    if r.1 % r.2 = 0 then some (if negative then -(r.1 / r.2 : Nat) else (r.1 / r.2 : Nat)) else none
  | _ => none

end Binary

end ComponentLint.Number
