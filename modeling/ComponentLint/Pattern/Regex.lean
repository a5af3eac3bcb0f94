import ComponentLint.Text.Case
import ComponentLint.Text.Digit

/-!
Regular expressions and what they match. Matching from a cursor gives the cursors reached, in the
order in which a backtracking search would try them; it is structural in the expression, and a
repetition goes on only while it makes progress, so every search ends.
-/

namespace ComponentLint.Pattern

/-- A position in the searched text: what is before it, last character first, what is after it,
and the groups matched so far, the latest first. -/
structure Cursor where
  before : List Char
  after : List Char
  groups : List (Nat × List Char)
  deriving DecidableEq, Repr

/-! ### Characters -/

inductive Category where
  | digit
  | space
  | word
  deriving DecidableEq, Repr

def Category.holds (k : Category) (ascii : Bool) (c : Char) : Bool :=
  (!ascii || c.toNat < 128) &&
  match k with
  | .digit => Text.isDecimal c
  | .space => Text.isSpace c && !(ascii && 28 ≤ c.toNat && c.toNat ≤ 31)
  | .word => Text.isWord c

/-- One member of a character class. -/
inductive ClassItem where
  | range (low high : Char)
  | category (kind : Category) (negated ascii : Bool)
  deriving DecidableEq, Repr

def ClassItem.holds (i : ClassItem) (c : Char) : Bool :=
  match i with
  | range low high => low ≤ c && c ≤ high
  | category kind negated ascii => kind.holds ascii c != negated

/-- Letters that count as one another beyond their cases. -/
def alike : List (List Char) :=
  [['i', Char.ofNat 0x131], ['s', Char.ofNat 0x17f], [Char.ofNat 0xb5, Char.ofNat 0x3bc],
   [Char.ofNat 0x3c2, Char.ofNat 0x3c3], [Char.ofNat 0xfb05, Char.ofNat 0xfb06]]

/-- The characters that are a letter in any case. -/
def variants (c : Char) : List Char :=
  let low := Text.lowerOne c
  let same := ((alike.find? (·.contains low)).getD [low])
  c :: same ++ same.flatMap fun d =>
    (if d.toNat < 128 then d.toUpper else Text.otherCase Text.upperRuns d) ::
      (if d = 'i' then [Char.ofNat 0x130] else if d = 'k' then [Char.ofNat 0x212a]
       else if d.toNat = 0xe5 then [Char.ofNat 0x212b] else [])

def classHolds (negated fold : Bool) (items : List ClassItem) (c : Char) : Bool :=
  (if fold then (variants c).any fun d => items.any (·.holds d) else items.any (·.holds c)) !=
    negated

/-! ### Expressions -/

inductive Anchor where
  /-- The start of the text, or of a line. -/
  | start (lines : Bool)
  /-- The end of the text or a line end that closes it; with `lines`, the end of any line. -/
  | finish (lines : Bool)
  /-- The very end of the text. -/
  | veryEnd
  | boundary (negated ascii : Bool)
  deriving DecidableEq, Repr

inductive Greed where
  | greedy
  | lazy
  | possessive
  deriving DecidableEq, Repr

inductive Regex where
  | empty
  | oneOf (negated fold : Bool) (items : List ClassItem)
  /-- Any character, line ends included or not. -/
  | any (lineEnds : Bool)
  | seq (first second : Regex)
  | alt (first second : Regex)
  | repeated (body : Regex) (least : Nat) (most : Option Nat) (greed : Greed)
  | group (index : Nat) (body : Regex)
  | reference (index : Nat) (fold : Bool)
  | anchor (a : Anchor)
  | ahead (negated : Bool) (body : Regex)
  /-- What stands before, of a fixed width. -/
  | behind (negated : Bool) (width : Nat) (body : Regex)
  /-- The first way only in which the body matches. -/
  | atomic (body : Regex)
  /-- One of two expressions, by whether a group has matched. -/
  | ifGroup (index : Nat) (yes no : Regex)
  deriving Repr, Inhabited

/-! ### Matching -/

namespace Cursor

/-- Moves over `n` characters. -/
def forward (c : Cursor) (n : Nat) : Cursor :=
  { c with before := (c.after.take n).reverse ++ c.before, after := c.after.drop n }

def back (c : Cursor) (n : Nat) : Cursor :=
  { c with before := c.before.drop n, after := (c.before.take n).reverse ++ c.after }

def isWordAt (ascii : Bool) : Option Char → Bool
  | some c => Category.word.holds ascii c
  | none => false

def atAnchor (c : Cursor) : Anchor → Bool
  | .start lines => c.before.isEmpty || (lines && c.before.head? == some '\n')
  | .finish lines =>
    c.after.isEmpty || c.after == ['\n'] || (lines && c.after.head? == some '\n')
  | .veryEnd => c.after.isEmpty
  | .boundary negated ascii =>
    !(c.before.isEmpty && c.after.isEmpty) &&
      ((isWordAt ascii c.before.head? != isWordAt ascii c.after.head?) != negated)

end Cursor

/-- Exactly `n` steps in a row. -/
def exactly (step : Cursor → List Cursor) : Nat → Cursor → List Cursor
  | 0, c => [c]
  | n + 1, c => (step c).flatMap (exactly step n)

/-- Further steps, at most `most`, as long as they make progress; `fuel` is more than the length
of the text that is left. -/
def further (step : Cursor → List Cursor) (lazy : Bool) :
    Nat → Option Nat → Cursor → List Cursor
  | 0, _, c => [c]
  | _ + 1, some 0, c => [c]
  | fuel + 1, most, c =>
    let more := (step c).flatMap fun d =>
      if d.after.length < c.after.length then further step lazy fuel (most.map (· - 1)) d else [d]
    if lazy then c :: more else more ++ [c]

def sameText (fold : Bool) (a b : List Char) : Bool :=
  if fold then a.map Text.lowerOne == b.map Text.lowerOne else a == b

namespace Regex

/-- The cursors a match from here can end at, in order of preference. -/
def run : Regex → Cursor → List Cursor
  | empty, c => [c]
  | oneOf negated fold items, c =>
    match c.after with
    | x :: _ => if classHolds negated fold items x then [c.forward 1] else []
    | [] => []
  | any lineEnds, c =>
    match c.after with
    | x :: _ => if lineEnds || x != '\n' then [c.forward 1] else []
    | [] => []
  | seq r s, c => (r.run c).flatMap s.run
  | alt r s, c => r.run c ++ s.run c
  | repeated r least most greed, c =>
    let more := most.map (· - least)
    let all := (exactly r.run least c).flatMap fun d =>
      further r.run (greed == .lazy) (d.after.length + 1) more d
    if greed == .possessive then all.take 1 else all
  | group i r, c =>
    (r.run c).map fun d =>
      { d with groups := (i, c.after.take (c.after.length - d.after.length)) :: d.groups }
  | reference i fold, c =>
    match c.groups.lookup i with
    | none => []
    | some text =>
      if sameText fold text (c.after.take text.length) then [c.forward text.length] else []
  | anchor a, c => if c.atAnchor a then [c] else []
  | ahead negated r, c =>
    match r.run c with
    | [] => if negated then [c] else []
    | d :: _ => if negated then [] else [{ c with groups := d.groups }]
  | behind negated width r, c =>
    if c.before.length < width then if negated then [c] else []
    else match r.run (c.back width) with
      | [] => if negated then [c] else []
      | d :: _ => if negated then [] else [{ c with groups := d.groups }]
  | atomic r, c => (r.run c).take 1
  | ifGroup i yes no, c => if (c.groups.lookup i).isSome then yes.run c else no.run c

/-- Tries to match at every position from the left. -/
def searchFrom (r : Regex) (before : List Char) : List Char → Bool
  | [] => !(r.run ⟨before, [], []⟩).isEmpty
  | c :: cs => !(r.run ⟨before, c :: cs, []⟩).isEmpty || searchFrom r (c :: before) cs

/-- Whether the expression matches anywhere in the text. -/
def search (r : Regex) (text : String) : Bool := r.searchFrom [] text.toList

end Regex

end ComponentLint.Pattern
