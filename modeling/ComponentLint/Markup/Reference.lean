import ComponentLint.Fault
import ComponentLint.Markup.Entity
import ComponentLint.Text.Word

/-!
Character references in texts and attribute values. A reference is resolved by its number, or by
its name; a name that is not known is read as far as a known name that needs no semicolon goes. A
decimal number with too many digits is not read at all, and the text has no meaning then.
-/

namespace ComponentLint.Markup.Reference

/-- What the numbers from 0x80 to 0x9f stand for. -/
def windowsPage : List Nat :=
  [0x20ac, 0x81, 0x201a, 0x192, 0x201e, 0x2026, 0x2020, 0x2021, 0x2c6, 0x2030, 0x160, 0x2039,
   0x152, 0x8d, 0x17d, 0x8f, 0x90, 0x2018, 0x2019, 0x201c, 0x201d, 0x2022, 0x2013, 0x2014, 0x2dc,
   0x2122, 0x161, 0x203a, 0x153, 0x9d, 0x17e, 0x178]

/-- The characters of a name as it is written, with its semicolon or without. -/
def lookup? (written : List Char) : Option (List Char) :=
  match written.getLast? with
  | some ';' => named? (String.ofList written.dropLast)
  | _ =>
    let name := String.ofList written
    if bareNames.contains name then named? name else none

/-- The text whose longest known beginning, of at least two and fewer than `n + 1` characters, is
replaced. -/
def longest? (written : List Char) : Nat → Option (List Char)
  | 0 | 1 => none
  | n + 2 =>
    match lookup? (written.take (n + 2)) with
    | some cs => some (cs ++ written.drop (n + 2))
    | none => longest? written (n + 1)

/-- Numbers that stand for no character at all. -/
def isDropped (n : Nat) : Bool :=
  (1 ≤ n && n ≤ 8) || (0xb == n) || (0xe ≤ n && n ≤ 0x1f) || (0x7f ≤ n && n ≤ 0x9f) ||
  (0xfdd0 ≤ n && n ≤ 0xfdef) || n % 0x10000 == 0xfffe || n % 0x10000 == 0xffff

def ofNumber (n : Nat) : List Char :=
  if n = 0 then [Char.ofNat 0xfffd]
  else if n = 0xd then ['\r']
  else match (if 0x80 ≤ n then windowsPage[n - 0x80]? else none) with
    | some m => [Char.ofNat m]
    | none =>
      if (0xd800 ≤ n ∧ n ≤ 0xdfff) ∨ 0x10ffff < n then [Char.ofNat 0xfffd]
      else if isDropped n then []
      else [Char.ofNat n]

def ofName (written : List Char) : List Char :=
  match lookup? written with
  | some cs => cs
  | none => (longest? written (written.length - 1)).getD ('&' :: written)

def isHex (c : Char) : Bool :=
  Text.isAsciiDigit c || ('a' ≤ c && c ≤ 'f') || ('A' ≤ c && c ≤ 'F')

def hexValue (c : Char) : Nat :=
  if Text.isAsciiDigit c then c.toNat - 48 else if 'a' ≤ c then c.toNat - 87 else c.toNat - 55

def valueIn (base : Nat) (ds : List Char) : Nat := ds.foldl (fun n c => n * base + hexValue c) 0

/-- What a named reference may be written with. -/
def isNamePart (c : Char) : Bool := !("\t\n\x0c <&#;".toList.contains c)

/-- One when the rest starts with a semicolon, which then belongs to the reference. -/
def semicolon (rest : List Char) : Nat := if rest.head? = some ';' then 1 else 0

/-- A decimal reference: what it stands for, and how long it is. -/
def decimal (rest : List Char) : Except Fault (List Char × Nat) :=
  let ds := rest.takeWhile Text.isAsciiDigit
  if ds.length ≤ Number.digitLimit then
    .ok (ofNumber (valueIn 10 ds), 1 + ds.length + semicolon (rest.drop ds.length))
  else .error (.crash .badText)

/-- A hexadecimal reference, from its letter on. -/
def hexadecimal? (rest : List Char) : Option (List Char × Nat) :=
  match rest with
  | x :: more =>
    let hs := more.takeWhile isHex
    if (x = 'x' ∨ x = 'X') ∧ hs ≠ [] then
      some (ofNumber (valueIn 16 hs), 2 + hs.length + semicolon (more.drop hs.length))
    else none
  | [] => none

/-- A named reference. -/
def name? (s : List Char) : Option (List Char × Nat) :=
  let name := (s.take 32).takeWhile isNamePart
  if name.isEmpty then none
  else
    let len := name.length + semicolon (s.drop name.length)
    some (ofName (s.take len), len)

/-- A reference right after its ampersand: what it stands for, and how long it is. -/
def reference (s : List Char) : Except Fault (Option (List Char × Nat)) :=
  match s with
  | '#' :: rest =>
    if (rest.head?.map Text.isAsciiDigit).getD false then (decimal rest).map some
    else .ok (hexadecimal? rest)
  | _ => .ok (name? s)

/-- Resolves references from left to right; `skip` counts the characters of the current one still
to be passed over. -/
def resolveFrom : Nat → List Char → Except Fault (List Char)
  | _, [] => .ok []
  | skip + 1, _ :: cs => resolveFrom skip cs
  | 0, c :: cs =>
    if c = '&' then do
      match ← reference cs with
      | some (out, len) => return out ++ (← resolveFrom len cs)
      | none => return c :: (← resolveFrom 0 cs)
    else do return c :: (← resolveFrom 0 cs)

def resolve (s : List Char) : Except Fault (List Char) := resolveFrom 0 s

end ComponentLint.Markup.Reference
