import ComponentLint.Fault
import ComponentLint.Markup.Event
import ComponentLint.Markup.Reference

/-!
HTML text as a sequence of tags and character data. Comments, declarations and processing
instructions are passed over; the inside of `script` and `style` is taken as it stands up to the
end tag of the same name. Markup that is not finished counts as character data.
-/

namespace ComponentLint.Markup

/-- The location after some characters. -/
def advance (l : Location) (s : List Char) : Location :=
  s.foldl (fun l c => if c = '\n' then ⟨l.line + 1, 0⟩ else ⟨l.line, l.column + 1⟩) l

namespace Scanner

/-- A construct at the start of the text: the events it gives and how many characters it takes;
`none` where the text ends first. -/
structure Construct where
  events : List Event
  length : Nat
  /-- The element whose raw content follows. -/
  raw : Option String := none

def lowered (s : List Char) : String := String.ofList (Text.lower s)

/-- How many characters there are up to and including the first one that satisfies the test. -/
def through (test : Char → Bool) (s : List Char) : Option Nat := (s.findIdx? test).map (· + 1)

/-! ### Start tags -/

/-- The characters of a tag name after its first letter. -/
def isTagChar (c : Char) : Bool := !("\t\n\r\x0c />\x00".toList.contains c)

/-- Passes white space, and slashes that are not directly before `>`. -/
def skipSeparators : List Char → List Char
  | [] => []
  | '/' :: cs => if cs.head? = some '>' then '/' :: cs else skipSeparators cs
  | c :: cs => if Text.isSpace c then skipSeparators cs else c :: cs

/-- The value at the start of the text, quoted or bare, and its length. -/
def value? (s : List Char) : Option (List Char × Nat) :=
  match s with
  | q :: rest =>
    if q = '\'' ∨ q = '"' then
      let body := rest.takeWhile (· ≠ q)
      if body.length < rest.length then some (body, body.length + 2) else none
    else
      let bare := s.takeWhile fun c => c ≠ '>' ∧ !Text.isSpace c
      some (bare, bare.length)
  | [] => some ([], 0)

/-- An attribute's `= value` and what follows it. Before a quote that is never closed, a blank
ends the value at once, and a second `=` belongs to it. -/
def assignment? (s : List Char) : Option (List Char × List Char) :=
  let s := Text.stripLeft s
  let marks := s.takeWhile (· = '=')
  if marks.isEmpty then none
  else
    let afterMarks := s.drop marks.length
    let blanks := afterMarks.takeWhile Text.isSpace
    let body := afterMarks.drop blanks.length
    match value? body with
    | some (v, n) => some (v, body.drop n)
    | none =>
      if !blanks.isEmpty then some ([], body)
      else if 1 < marks.length then
        let late := s.drop (marks.length - 1)
        let bare := late.takeWhile fun c => c ≠ '>' ∧ !Text.isSpace c
        some (bare, late.drop bare.length)
      else none

/-- An attribute's value, if it has one, and what follows it. -/
def assigned (s : List Char) : Option (List Char) × List Char :=
  match assignment? s with
  | some (v, after) => (some v, after)
  | none => (none, s)

/-- What may stand right before an attribute name. -/
def opensAttribute (c : Char) : Bool := c == '\'' || c == '"' || c == '/' || Text.isSpace c

/-- An attribute as it is written: its name, and its value with the references in it. -/
structure RawAttribute where
  name : String
  value : Option (List Char)

/-- The attribute that is meant: the references of its value are resolved. -/
def RawAttribute.resolve (a : RawAttribute) : Except Fault Attribute := do
  match a.value with
  | none => return ⟨a.name, none⟩
  | some v => return ⟨a.name, some (String.ofList (← Reference.resolve v))⟩

/-- The attributes from here on and the text after them; `before` is the character before this
position. -/
def attributes : Nat → Char → List Char → List RawAttribute × List Char
  | 0, _, s => ([], s)
  | fuel + 1, before, s =>
    match s with
    | [] => ([], [])
    | c :: rest =>
      if !opensAttribute before || Text.isSpace c || c = '/' || c = '>' then ([], s)
      else
        let more := rest.takeWhile fun c => !Text.isSpace c && c ≠ '/' && c ≠ '=' && c ≠ '>'
        let name := lowered (c :: more)
        let afterName := rest.drop more.length
        let (value, after) := assigned afterName
        let next := skipSeparators after
        let consumed := s.length - next.length
        let last := (s.take consumed).getLast?.getD before
        let (others, final) := attributes fuel last next
        (⟨name, value⟩ :: others, final)

/-- Where the search for the end of a start tag stops. -/
inductive TagEnd where
  /-- The tag goes on for this many characters. -/
  | ends (length : Nat)
  /-- The text ends inside the tag. -/
  | unfinished

/-- The end of a start tag, given its text and the rest after its name and attributes. -/
def tagEnd (s rest : List Char) : TagEnd :=
  let n := s.length - rest.length
  match rest with
  | [] => .unfinished
  | '>' :: _ => .ends (n + 1)
  | '/' :: '>' :: _ => .ends (n + 2)
  | c :: _ => if c = '/' ∨ c = '=' ∨ Text.isAsciiLetter c then .unfinished else .ends n

/-- A start tag; the text begins with `<` and a letter. -/
def startTag (s : List Char) : Except Fault (Option Construct) :=
  let name := (s.drop 1).takeWhile isTagChar
  let afterName := s.drop (1 + name.length)
  let lastOfName := name.getLast?.getD '<'
  -- the attributes, from after all blanks and slashes
  let gap := afterName.takeWhile fun c => c = '/' || Text.isSpace c
  let (_, located) :=
    attributes s.length (gap.getLast?.getD lastOfName) (afterName.drop gap.length)
  match tagEnd s (Text.stripLeft located) with
  | .unfinished => .ok none
  | .ends length => do
    -- once more, now leaving a slash before `>` in place
    let inner := skipSeparators afterName
    let skipped := afterName.take (afterName.length - inner.length)
    let (written, rest) := attributes s.length (skipped.getLast?.getD lastOfName) inner
    let attrs ← written.mapM RawAttribute.resolve
    let tag := lowered name
    let tail := Text.strip ((s.take length).drop (s.length - rest.length))
    if tail = ['/', '>'] then return some ⟨[.single tag attrs], length, none⟩
    else if tail = ['>'] then
      return some
        ⟨[.start tag attrs], length, if tag = "script" ∨ tag = "style" then some tag else none⟩
    else return some ⟨[.data (String.ofList (s.take length))], length, none⟩

/-! ### End tags -/

/-- Whether the text is an end tag with nothing but blanks around its name; gives the name. -/
def plainEndTag? (s : List Char) : Option (List Char × Nat) :=
  let t := Text.stripLeft (s.drop 2)
  match t with
  | c :: rest =>
    if !Text.isAsciiLetter c then none
    else
      let more := rest.takeWhile fun c =>
        Text.isAsciiLetter c || Text.isAsciiDigit c || "-.:_".toList.contains c
      match Text.stripLeft (rest.drop more.length) with
      | '>' :: after => some (c :: more, s.length - after.length)
      | _ => none
  | [] => none

/-- An end tag, a stray `</>`, or a comment in disguise; the text begins with `</`. -/
def endTag (s : List Char) : Option Construct :=
  match through (· = '>') (s.drop 2) with
  | none => none
  | some n =>
    match plainEndTag? s with
    | some (name, length) => some ⟨[.stop (lowered name)], length, none⟩
    | none =>
      match s.drop 2 with
      | c :: _ =>
        if Text.isAsciiLetter c then
          some ⟨[.stop (lowered ((s.drop 2).takeWhile isTagChar))], n + 2, none⟩
        else some ⟨[], n + 2, none⟩
      | [] => none

/-- Whether an end tag of the element starts here; gives its length. -/
def closesRaw? (element : String) (s : List Char) : Option Nat :=
  if ['<', '/'].isPrefixOf s then
    (plainEndTag? s).bind fun (name, length) =>
      if lowered name == element then some length else none
  else none

/-- The raw content of an element, and the length of the end tag after it. -/
def rawContent? (element : String) : List Char → Option (List Char × Nat)
  | [] => none
  | c :: cs =>
    match closesRaw? element (c :: cs) with
    | some n => some ([], n)
    | none => (rawContent? element cs).map fun r => (c :: r.1, r.2)

/-- A letter as a search without regard to case takes it. -/
def searchForm (c : Char) : Char :=
  if c.toNat = 0x17f then 's' else if c.toNat = 0x130 ∨ c.toNat = 0x131 then 'i' else c.toLower

/-- An end tag of the element in other forms of its letters: it is found, but closes nothing. -/
def resembledEnd? (element : String) (s : List Char) : Option Nat :=
  let t := Text.stripLeft (s.drop 2)
  if ['<', '/'].isPrefixOf s && (t.take element.length).map searchForm == element.toList then
    match Text.stripLeft (t.drop element.length) with
    | '>' :: after => some (s.length - after.length)
    | _ => none
  else none

/-- What is kept of raw content that is never closed: all through the last end tag that only
resembles the one of the element. -/
def keptRaw (element : String) : List Char → List Char
  | [] => []
  | c :: cs =>
    match keptRaw element cs with
    | [] => (c :: cs).take ((resembledEnd? element (c :: cs)).getD 0)
    | kept => c :: kept

/-! ### Comments and declarations -/

/-- How many characters there are through `--`, blanks and `>`. -/
def throughComment : List Char → Option Nat
  | [] => none
  | c :: cs =>
    match c, cs with
    | '-', '-' :: rest =>
      match Text.stripLeft rest with
      | '>' :: after => some (cs.length + 1 - after.length)
      | _ => (throughComment cs).map (· + 1)
    | _, _ => (throughComment cs).map (· + 1)

/-- How many characters there are through the closing brackets of a section, with blanks between
them and before `>`. -/
def throughBrackets (brackets : Nat) : List Char → Option Nat
  | [] => none
  | c :: cs =>
    let rec closes : Nat → List Char → Option (List Char)
      | 0, s => match s with
        | '>' :: after => some after
        | _ => none
      | n + 1, s => match s with
        | ']' :: rest => closes n (Text.stripLeft rest)
        | _ => none
    match closes brackets (c :: cs) with
    | some after => some (cs.length + 1 - after.length)
    | none => (throughBrackets brackets cs).map (· + 1)

/-- A marked section, which begins with `<![` and a keyword. -/
def section? (s : List Char) : Except Fault (Option Nat) :=
  let t := s.drop 3
  match t with
  | [] => .ok none
  | c :: rest =>
    if !Text.isAsciiLetter c then .error (.crash .malformed)
    else
      let more := rest.takeWhile fun c =>
        Text.isAsciiLetter c || Text.isAsciiDigit c || "-_.".toList.contains c
      if (Text.stripLeft (rest.drop more.length)).isEmpty then .ok none
      else
        let keyword := lowered (c :: more)
        if ["temp", "cdata", "ignore", "include", "rcdata"].contains keyword then
          .ok ((throughBrackets 2 t).map (· + 3))
        else if ["if", "else", "endif"].contains keyword then
          .ok ((throughBrackets 1 t).map (· + 3))
        else .error (.crash .malformed)

/-- A declaration or a comment in disguise; the text begins with `<!`. -/
def declaration (s : List Char) : Except Fault (Option Construct) :=
  let passed (n : Option Nat) : Option Construct := n.map fun n => ⟨[], n, none⟩
  if "<![".toList.isPrefixOf s then (section? s).map passed
  else if lowered (s.take 9) = "<!doctype" then
    .ok (passed ((through (· = '>') (s.drop 9)).map (· + 9)))
  else .ok (passed ((through (· = '>') (s.drop 2)).map (· + 2)))

/-! ### The scan -/

/-- The construct at a `<`. -/
def construct (s : List Char) : Except Fault (Option Construct) :=
  match s with
  | '<' :: '/' :: _ => .ok (endTag s)
  | '<' :: '!' :: '-' :: '-' :: rest =>
    .ok ((throughComment rest).map fun n => ⟨[], n + 4, none⟩)
  | '<' :: '?' :: rest => .ok ((through (· = '>') rest).map fun n => ⟨[], n + 2, none⟩)
  | '<' :: '!' :: _ => declaration s
  | '<' :: c :: _ =>
    if Text.isAsciiLetter c then startTag s else .ok (some ⟨[.data "<"], 1, none⟩)
  | _ => .ok (some ⟨[.data "<"], 1, none⟩)

/-- Markup that is not finished: character data through the next `>`, else up to the next `<`. -/
def unfinished (s : List Char) : Except Fault Construct := do
  let length := match through (· = '>') (s.drop 1) with
    | some n => n + 1
    | none => match (s.drop 1).findIdx? (· = '<') with
      | some n => n + 1
      | none => 1
  return ⟨[.data (String.ofList (← Reference.resolve (s.take length)))], length, none⟩

/-- The construct at a `<`, finished or not. -/
def markup (s : List Char) : Except Fault Construct := do
  match ← construct s with
  | some k => return k
  | none => unfinished s

/-- The events of a text from a location on, inside raw content where `raw` names its element. -/
def scan : Nat → Option String → Location → List Char → Except Fault (List (Location × Event))
  | 0, _, _, _ => .ok []
  | _ + 1, _, _, [] => .ok []
  | fuel + 1, some element, l, s =>
    match rawContent? element s with
    | none =>
      let kept := keptRaw element s
      .ok (if kept.isEmpty then [] else [(l, .data (String.ofList kept))])
    | some (body, n) => do
      let here := advance l body
      let rest ← scan fuel none (advance here ((s.drop body.length).take n))
        (s.drop (body.length + n))
      let data := if body.isEmpty then [] else [(l, Event.data (String.ofList body))]
      return data ++ (here, .stop element) :: rest
  | fuel + 1, none, l, c :: cs =>
    let s := c :: cs
    if c ≠ '<' then do
      let text := s.takeWhile (· ≠ '<')
      let shown ← Reference.resolve text
      let rest ← scan fuel none (advance l text) (s.drop text.length)
      return (l, .data (String.ofList shown)) :: rest
    else do
      let k ← markup s
      let rest ← scan fuel k.raw (advance l (s.take k.length)) (s.drop k.length)
      return k.events.map (l, ·) ++ rest

end Scanner

/-- The tree of an HTML text. -/
def Document.parse (href text : String) : Except Fault Document := do
  let s := text.toList
  return .ofEvents href (← Scanner.scan (s.length + 1) none ⟨1, 0⟩ s)

end ComponentLint.Markup
