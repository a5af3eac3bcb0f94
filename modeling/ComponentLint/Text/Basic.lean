/-!
Texts as lists of characters: the searches, cuts and replacements the rest of the library is
written with. Everything here is structural recursion, so it computes in proofs.
-/

namespace ComponentLint.Text

/-- A character class given by the code points at which it alternately starts and stops. -/
def inRuns (bounds : List Nat) (c : Char) : Bool :=
  (bounds.takeWhile (· ≤ c.toNat)).length % 2 == 1

/-! ### White space -/

/-- White space of every script, the four ASCII separators included. -/
def isSpace (c : Char) : Bool :=
  let n := c.toNat
  (9 ≤ n && n ≤ 13) || (28 ≤ n && n ≤ 32) || n == 0x85 || n == 0xa0 || n == 0x1680 ||
  (0x2000 ≤ n && n ≤ 0x200a) || n == 0x2028 || n == 0x2029 || n == 0x202f || n == 0x205f ||
  n == 0x3000

def stripLeft (s : List Char) : List Char := s.dropWhile isSpace

def stripRight (s : List Char) : List Char := (s.reverse.dropWhile isSpace).reverse

def strip (s : List Char) : List Char := stripRight (stripLeft s)

def isBlank (s : List Char) : Bool := s.all isSpace

/-! ### Searching -/

/-- Whether `pattern` occurs anywhere in the text. -/
def hasInfix (pattern : List Char) : List Char → Bool
  | [] => pattern.isEmpty
  | c :: cs => pattern.isPrefixOf (c :: cs) || hasInfix pattern cs

/-- The text before the first occurrence of `pattern`, and the text after it. -/
def cut (pattern : List Char) : List Char → Option (List Char × List Char)
  | [] => if pattern.isEmpty then some ([], []) else none
  | c :: cs =>
    if pattern.isPrefixOf (c :: cs) then some ([], (c :: cs).drop pattern.length)
    else (cut pattern cs).map fun r => (c :: r.1, r.2)

/-- The text before the first occurrence of `pattern`, all of it when there is none. -/
def before (pattern : List Char) (s : List Char) : List Char :=
  match cut pattern s with
  | some r => r.1
  | none => s

/-- The text before the last occurrence of `pattern` that starts on the first line. -/
def beforeLast (pattern : List Char) : List Char → Option (List Char)
  | [] => none
  | c :: cs =>
    if c = '\n' then none
    else match beforeLast pattern cs with
      | some r => some (c :: r)
      | none => if pattern.isPrefixOf (c :: cs) then some [] else none

def endsWith (suffix : List Char) (s : List Char) : Bool := suffix.isSuffixOf s

/-- The text after the last `sep`, all of it when there is none. -/
def afterLast (sep : Char) (s : List Char) : List Char :=
  (s.reverse.takeWhile (· ≠ sep)).reverse

/-! ### Splitting and replacing -/

/-- The segments between separators; there is one more of them than there are separators. -/
def splitOn (sep : Char) : List Char → List (List Char)
  | [] => [[]]
  | c :: cs =>
    if c = sep then [] :: splitOn sep cs
    else match splitOn sep cs with
      | [] => [[c]]
      | h :: t => (c :: h) :: t

/-- The maximal runs of characters that are not white space. -/
def words (s : List Char) : List (List Char) :=
  let r := s.foldr
    (fun c (acc : List Char × List (List Char)) =>
      if isSpace c then ([], if acc.1.isEmpty then acc.2 else acc.1 :: acc.2)
      else (c :: acc.1, acc.2))
    ([], [])
  if r.1.isEmpty then r.2 else r.1 :: r.2

/-- Replaces the occurrences of a non-empty `old` from left to right; `skip` counts the
characters of the current occurrence still to be dropped. -/
def replaceFrom (old new : List Char) : Nat → List Char → List Char
  | _, [] => []
  | skip + 1, _ :: cs => replaceFrom old new skip cs
  | 0, c :: cs =>
    if old.isPrefixOf (c :: cs) then new ++ replaceFrom old new (old.length - 1) cs
    else c :: replaceFrom old new 0 cs

def replace (old new s : List Char) : List Char := replaceFrom old new 0 s

/-- Line ends `\r\n` and `\r` as `\n`. -/
def unifyNewlines : List Char → List Char
  | [] => []
  | '\r' :: '\n' :: cs => '\n' :: unifyNewlines cs
  | '\r' :: cs => '\n' :: unifyNewlines cs
  | c :: cs => c :: unifyNewlines cs

def joinWith (sep : String) (parts : List String) : String := sep.intercalate parts

end ComponentLint.Text
