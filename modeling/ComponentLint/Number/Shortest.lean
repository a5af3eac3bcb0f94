import ComponentLint.Number.Binary

/-!
The decimal text of a double-precision number: the fewest digits that read back as the number,
and of those the nearest. Numbers from 1e-4 up to 1e16 are written positionally, with `.0` where
there is no fraction; others with an exponent of at least two digits.
-/

namespace ComponentLint.Number.Binary

/-- The position of the decimal point: the least `p` with `num / den < 10 ^ p`. -/
def pointOf (num den : Nat) : Int :=
  let guess : Int := ((Nat.log2 num : Int) - Nat.log2 den - 1) * 30103 / 100000 - 1
  let below (p : Int) : Bool :=
    if p < 0 then num * Nat.pow 10 (-p).toNat < den else num < den * Nat.pow 10 p.toNat
  ([0, 1, 2, 3, 4].map (guess + ·)).find? below |>.getD (guess + 5)

/-- `num / den` in units of `10 ^ e`, as a fraction. -/
def inUnits (num den : Nat) (e : Int) : Nat × Nat :=
  if e < 0 then (num * Nat.pow 10 (-e).toNat, den) else (num, den * Nat.pow 10 e.toNat)

/-- The nearer of the two neighbours with `count` digits, if it reads back as the number. -/
def withDigits? (m : Nat) (e : Int) (num den : Nat) (point : Int) (count : Nat) :
    Option (Nat × Int) :=
  let unit := point - count
  let s := inUnits num den unit
  let low := s.1 / s.2
  let near := roundDiv s.1 s.2
  let far := if near = low then low + 1 else low
  let readsBack (d : Nat) : Bool := ofDecimal false d unit == .finite false m e
  if readsBack near then some (near, unit) else if readsBack far then some (far, unit) else none

/-- The shortest digits of a positive number and the power of ten they count. -/
def shortest (m : Nat) (e : Int) : Nat × Int :=
  let r := ratio m e
  let point := pointOf r.1 r.2
  ((List.range 17).findSome? fun k => withDigits? m e r.1 r.2 point (k + 1)).getD (m, e)

/-- Digits without the zeros at their end. -/
def trimZeros (s : List Char) : List Char := (s.reverse.dropWhile (· == '0')).reverse

/-- Digits placed around a decimal point that stands after `point` of them. -/
def positional (digits : List Char) (point : Int) : List Char :=
  if point ≤ 0 then '0' :: '.' :: List.replicate (-point).toNat '0' ++ digits
  else if digits.length ≤ point.toNat then
    digits ++ List.replicate (point.toNat - digits.length) '0' ++ ['.', '0']
  else digits.take point.toNat ++ '.' :: digits.drop point.toNat

/-- Digits with an exponent: one digit before the point, and two or more after the mark. -/
def scientific (digits : List Char) (point : Int) : List Char :=
  let power := point - 1
  let shown := Nat.toDigits 10 power.natAbs
  digits.take 1 ++ (if digits.length ≤ 1 then [] else '.' :: digits.drop 1) ++
    'e' :: (if power < 0 then '-' else '+') :: List.replicate (2 - shown.length) '0' ++ shown

def text : Binary → String
  | .nan => "nan"
  | .infinite negative => if negative then "-inf" else "inf"
  | .finite negative m e =>
    let body :=
      if m = 0 then ['0', '.', '0']
      else
        let (d, unit) := shortest m e
        let all := Nat.toDigits 10 d
        let point := all.length + unit
        let digits := trimZeros all
        if -4 < point ∧ point ≤ 16 then positional digits point else scientific digits point
    String.ofList (if negative then '-' :: body else body)

end ComponentLint.Number.Binary
