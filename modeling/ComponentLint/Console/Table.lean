import ComponentLint.Text.Basic

/-!
Tables on a console. Columns are as wide as their widest cell, counted in cells of the console:
some characters take two, and marks that join the character before them take none.
-/

namespace ComponentLint.Console

/-- Characters that take no cell. -/
def emptyRuns : List Nat :=
  [0, 0x20, 0x7f, 0xa0, 0x300, 0x370, 0x483, 0x48a, 0x591, 0x5be, 0x610, 0x61b, 0x64b, 0x660,
   0x200b, 0x2010, 0x2028, 0x202f, 0x2060, 0x2065, 0x20d0, 0x20f1, 0xfe00, 0xfe10, 0xfe20, 0xfe30,
   0xfeff, 0xff00]

/-- Characters that take two cells. -/
def wideRuns : List Nat :=
  [0x1100, 0x1160, 0x231a, 0x231c, 0x2329, 0x232b, 0x23e9, 0x23ed, 0x23f0, 0x23f1, 0x23f3, 0x23f4,
   0x25fd, 0x25ff, 0x2614, 0x2616, 0x2648, 0x2654, 0x267f, 0x2680, 0x2693, 0x2694, 0x26a1, 0x26a2,
   0x26aa, 0x26ac, 0x26bd, 0x26bf, 0x26c4, 0x26c6, 0x26ce, 0x26cf, 0x26d4, 0x26d5, 0x26ea, 0x26eb,
   0x26f2, 0x26f4, 0x26f5, 0x26f6, 0x26fa, 0x26fb, 0x26fd, 0x26fe, 0x2705, 0x2706, 0x270a, 0x270c,
   0x2728, 0x2729, 0x274c, 0x274d, 0x274e, 0x274f, 0x2753, 0x2756, 0x2757, 0x2758, 0x2795, 0x2798,
   0x27b0, 0x27b1, 0x27bf, 0x27c0, 0x2b1b, 0x2b1d, 0x2b50, 0x2b51, 0x2b55, 0x2b56, 0x2e80, 0x303f,
   0x3041, 0xa4d0, 0xa960, 0xa980, 0xac00, 0xd7a4, 0xf900, 0xfb00, 0xfe10, 0xfe1a, 0xfe30, 0xfe70,
   0xff01, 0xff61, 0xffe0, 0xffe7, 0x16fe0, 0x18d00, 0x1b000, 0x1b300, 0x1f004, 0x1f005, 0x1f0cf,
   0x1f0d0, 0x1f18e, 0x1f18f, 0x1f191, 0x1f19b, 0x1f200, 0x1f321, 0x1f32d, 0x1f336, 0x1f337,
   0x1f37d, 0x1f37e, 0x1f394, 0x1f3a0, 0x1f3cb, 0x1f3cf, 0x1f3d4, 0x1f3e0, 0x1f3f1, 0x1f3f4,
   0x1f3f5, 0x1f3f8, 0x1f43f, 0x1f440, 0x1f441, 0x1f442, 0x1f4fd, 0x1f4ff, 0x1f53e, 0x1f54b,
   0x1f54f, 0x1f550, 0x1f568, 0x1f57a, 0x1f57b, 0x1f595, 0x1f597, 0x1f5a4, 0x1f5a5, 0x1f5fb,
   0x1f650, 0x1f680, 0x1f6c6, 0x1f6cc, 0x1f6cd, 0x1f6d0, 0x1f6d3, 0x1f6d5, 0x1f6d8, 0x1f6eb,
   0x1f6ed, 0x1f6f4, 0x1f6fd, 0x1f7e0, 0x1f7ec, 0x1f90c, 0x1f93b, 0x1f93c, 0x1f946, 0x1f947,
   0x1fb00, 0x20000, 0x3fffe]

def charWidth (c : Char) : Nat :=
  if Text.inRuns emptyRuns c then 0 else if Text.inRuns wideRuns c then 2 else 1

def width : List Char → Nat
  | [] => 0
  | c :: cs => charWidth c + width cs

/-- Replaces tabs by spaces up to the next multiple of eight cells. -/
def expandTabs : Nat → List Char → List Char
  | _, [] => []
  | column, c :: cs =>
    if c = '\t' then
      let n := 8 - column % 8
      List.replicate n ' ' ++ expandTabs (column + n) cs
    else c :: expandTabs (column + charWidth c) cs

/-- The lines of a text. -/
def lines (s : String) : List (List Char) := (Text.splitOn '\n' s.toList).map (expandTabs 0)

/-- A text on lines of its own. -/
def paragraph (s : String) : String :=
  String.join ((lines s).map fun l => String.ofList l ++ "\n")

structure Table where
  header : List String
  rows : List (List String)

namespace Table

/-- The width of each column. -/
def widths (t : Table) : List Nat :=
  let widest := fun (s : String) => ((lines s).map width).foldl max 0
  t.rows.foldl (fun ws row => (ws.zip row).map fun (w, cell) => max w (widest cell))
    (t.header.map widest)

/-- A line of cells between bars. -/
def cellLine (bar : String) (ws : List Nat) (cells : List (List Char)) : String :=
  let cell := fun (p : Nat × List Char) =>
    " " ++ String.ofList (p.2 ++ List.replicate (p.1 - width p.2) ' ') ++ " "
  bar ++ Text.joinWith bar ((ws.zip cells).map cell) ++ bar ++ "\n"

/-- The lines of a row, whose cells may have several each. -/
def row (bar : String) (ws : List Nat) (cells : List String) : String :=
  let columns := cells.map lines
  let height := (columns.map List.length).foldl max 1
  String.join ((List.range height).map fun i => cellLine bar ws (columns.map fun ls => (ls[i]?).getD []))

/-- A line between rows. -/
def rule (left stroke cross right : String) (ws : List Nat) : String :=
  let segment := fun (w : Nat) => String.join (List.replicate (w + 2) stroke)
  left ++ Text.joinWith cross (ws.map segment) ++ right ++ "\n"

def render (t : Table) : String :=
  let ws := t.widths
  rule "┏" "━" "┳" "┓" ws ++ row "┃" ws t.header ++ rule "┡" "━" "╇" "┩" ws ++
    String.join (t.rows.map (row "│" ws)) ++ rule "└" "─" "┴" "┘" ws

end Table

end ComponentLint.Console
