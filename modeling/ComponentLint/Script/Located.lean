import ComponentLint.Diagnostic
import ComponentLint.Script.Node

/-!
Scripts: a syntax tree over a text, and where that text stands in its document. Trees count bytes
of UTF-8, locations count characters.
-/

namespace ComponentLint.Script

/-- The text after `n` bytes, nothing past its end; `none` inside a character. -/
def dropBytes : Nat → List Char → Option (List Char)
  | 0, s => some s
  | _ + 1, [] => some []
  | n + 1, c :: cs => if c.utf8Size ≤ n + 1 then dropBytes (n + 1 - c.utf8Size) cs else none

/-- The first `n` bytes of a text, all of it when it is shorter; `none` inside a character. -/
def takeBytes : Nat → List Char → Option (List Char)
  | 0, _ => some []
  | _ + 1, [] => some []
  | n + 1, c :: cs =>
    if c.utf8Size ≤ n + 1 then (takeBytes (n + 1 - c.utf8Size) cs).map (c :: ·) else none

/-- The characters of a byte range; `none` when it cuts through a character. -/
def slice? (s : List Char) (start stop : Nat) : Option (List Char) :=
  if stop ≤ start then some [] else (dropBytes start s).bind (takeBytes (stop - start))

/-- A place in a text: the lines before it, and its column in bytes and in characters. -/
structure Point where
  row : Nat
  byteColumn : Nat
  column : Nat
  deriving DecidableEq, Repr

/-- The point `n` bytes on from a point. -/
def Point.advance : Point → Nat → List Char → Point
  | p, 0, _ => p
  | p, n + 1, [] => { p with byteColumn := p.byteColumn + (n + 1) }
  | p, n + 1, c :: cs =>
    if c = '\n' then advance ⟨p.row + 1, 0, 0⟩ n cs
    else
      let size := c.utf8Size
      advance ⟨p.row, p.byteColumn + min size (n + 1), p.column + 1⟩ (n + 1 - size) cs

/-- The point at a byte offset. -/
def pointAt (s : List Char) (offset : Nat) : Point := Point.advance ⟨0, 0, 0⟩ offset s

end ComponentLint.Script

namespace ComponentLint

/-- A script and the place of its text. Without its text, columns are counted in bytes. -/
structure Script where
  root : Script.Node
  text : String
  /-- The file the text came from, if it is not the path the script is checked under. -/
  source : Option String := none
  /-- The lines before the text in its file. -/
  lineOffset : Int := 0
  /-- The column at which the text starts. -/
  columnOffset : Int := 0
  keepsText : Bool := true
  deriving Inhabited

namespace Script

/-- The text of a node. -/
def textOf (s : Script) (n : Node) : Except Fault String :=
  match slice? s.text.toList n.start n.stop with
  | some cs => .ok (String.ofList cs)
  | none => .error (.crash .undecodable)

/-- Where a node stands in the document. -/
def locationOf (s : Script) (n : Node) : Location :=
  let p := pointAt s.text.toList n.start
  let column : Int := if s.keepsText then p.column else p.byteColumn
  ⟨p.row + 1 + s.lineOffset, if p.row = 0 then column + s.columnOffset else column⟩

/-- Where a node stands, with its file. -/
def positionOf (s : Script) (n : Node) : Position := ⟨s.source.getD "", s.locationOf n⟩

/-- The text between the quotes of a literal. -/
def unquote (text : String) : String := String.ofList (text.toList.drop 1).dropLast

end Script

end ComponentLint
