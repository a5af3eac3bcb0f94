import ComponentLint.Fault

/-!
Style tags in console text: a name in brackets opens a style and one with a slash closes it. On a
plain console the tags are dropped. Text from elsewhere is escaped, so that brackets in it are
shown as they are. The program prints with this; nothing is proved of it.
-/

namespace ComponentLint.Console

/-- The inside of the tag a text starts with, and the rest. -/
def tagAt? : List Char → Option (List Char × List Char)
  | '[' :: c :: rest =>
    if ('a' ≤ c ∧ c ≤ 'z') ∨ c = '#' ∨ c = '/' ∨ c = '@' then
      let inside := rest.takeWhile fun d => d ≠ ']' ∧ d ≠ '['
      match rest.drop inside.length with
      | ']' :: more => some (c :: inside, more)
      | _ => none
    else none
  | _ => none

/-- A part of a text: characters to show, or a tag. -/
inductive Piece where
  | text (s : List Char)
  | tag (inside : List Char)
  deriving DecidableEq, Repr

/-- The pieces of a text. Of the backslashes in front of a tag half are shown, and an odd one takes
its meaning from the tag; in front of any other bracket one is dropped. -/
def pieces : Nat → List Char → List Piece
  | 0, _ => []
  | fuel + 1, s =>
    let slashes := s.takeWhile (· = '\\')
    match tagAt? (s.drop slashes.length) with
    | some (inside, rest) =>
      let shown := Piece.text (slashes.take (slashes.length / 2))
      let tag := if slashes.length % 2 = 1 then Piece.text ('[' :: inside ++ [']']) else .tag inside
      shown :: tag :: pieces fuel rest
    | none =>
      match s with
      | [] => []
      | c :: rest =>
        if c = '\\' ∧ rest.head? = some '[' then pieces fuel rest
        else .text [c] :: pieces fuel rest

/-- The name of a tag, without what it is set to. -/
def tagName (inside : List Char) : List Char :=
  Text.lower (Text.strip (inside.takeWhile (· ≠ '=')))

/-- The open tags after a closing one: the innermost of its name is closed, or any for no name. -/
def closeTag? (name : List Char) (opened : List (List Char)) : Option (List (List Char)) :=
  if name = [] then opened.tail?
  else if opened.contains name then some (opened.erase name) else none

/-- What is shown of pieces under some open tags. -/
def shown? (opened : List (List Char)) : List Piece → Option (List Char)
  | [] => some []
  | .text s :: rest => (shown? opened rest).map (s ++ ·)
  | .tag inside :: rest =>
    match inside with
    | '/' :: more => (closeTag? (tagName more) opened).bind fun opened => shown? opened rest
    | _ => shown? (tagName inside :: opened) rest

/-- Characters a console has no use for. -/
def isStripped (c : Char) : Bool := [7, 8, 11, 12, 13].contains c.toNat

/-- What a console shows of a text with tags. -/
def render (text : String) : Except Fault String :=
  let s := text.toList
  match shown? [] (pieces (s.length + 1) s) with
  | some cs => .ok (String.ofList (cs.filter (!isStripped ·)))
  | none => .error (.crash .unopenedTag)

def escapeTags : Nat → List Char → List Char
  | 0, _ => []
  | fuel + 1, s =>
    let slashes := s.takeWhile (· = '\\')
    match tagAt? (s.drop slashes.length) with
    | some (inside, rest) =>
      slashes ++ slashes ++ '\\' :: '[' :: inside ++ ']' :: escapeTags fuel rest
    | none =>
      match s with
      | [] => []
      | c :: rest => c :: escapeTags fuel rest

/-- A text in which no bracket is taken for a tag. -/
def escapeText (text : String) : String :=
  let s := escapeTags (text.toList.length + 1) text.toList
  let slashes := (s.reverse.takeWhile (· = '\\')).length
  String.ofList (if slashes = 1 then s ++ ['\\'] else s)

end ComponentLint.Console
