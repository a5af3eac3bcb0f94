import ComponentLint.Number.Reading

/-!
Binding expressions. A template binds with `{{expr}}` or `[[expr]]`, where an expression is a path
such as `user.name` or `!hidden`, a literal, or a call such as `format(user.*, 'short')`. Parsing
reduces an expression to the property keys and the method it refers to; it cannot fail.
-/

namespace ComponentLint

/-- One argument of a call. -/
inductive Argument where
  /-- A quoted text, kept with its quotes, and what stands between them. -/
  | text (name value : List Char)
  /-- A numeral, and its value if it has one. -/
  | number (name : List Char) (value : Option Number.Binary)
  /-- A path; a wildcard path has lost its trailing `.*`. -/
  | path (name : List Char) (structured wildcard : Bool)
  deriving DecidableEq, Repr

inductive ExpressionKind where
  | literal
  | reference
  | computed
  deriving DecidableEq, Repr

/-- An expression reduced to what it refers to. The key of a literal is empty. -/
structure Expression where
  raw : String
  kind : ExpressionKind
  keys : List String
  methods : List String
  deriving DecidableEq, Repr

namespace Argument

def name : Argument → List Char
  | text n _ => n
  | number n _ => n
  | path n _ _ => n

def isLiteral : Argument → Bool
  | text .. => true
  | number .. => true
  | path .. => false

def isStructured : Argument → Bool
  | path _ s _ => s
  | _ => false

def isWildcard : Argument → Bool
  | path _ _ w => w
  | _ => false

end Argument

namespace Expression

/-! ### Delimiters -/

/-- The inside of the first binding with doubled delimiters: it starts at the leftmost opening
that has a closing on its line, and ends at the last closing of that line. -/
def inside (opening closing : Char) : List Char → Option (List Char)
  | [] => none
  | c :: cs =>
    if [opening, opening].isPrefixOf (c :: cs) then
      match Text.beforeLast [closing, closing] (cs.drop 1) with
      | some r => some r
      | none => inside opening closing cs
    else inside opening closing cs

/-- The expression bound in a text, without the event of a two-way binding. -/
def extractChars (s : List Char) : Option (List Char) :=
  ((inside '{' '}' s).orElse fun _ => inside '[' ']' s).map fun r =>
    Text.strip (Text.before [':', ':'] r)

def extract (text : String) : Option String := (extractChars text.toList).map String.ofList

/-! ### Literals -/

def isQuote (c : Char) : Bool := c == '\'' || c == '"'

/-- The text without a line end that closes it. -/
def dropFinalNewline (s : List Char) : List Char :=
  if s.getLast? = some '\n' then s.dropLast else s

/-- Quotes at both ends, which need not be the same, and no line end between. -/
def isQuoted (s : List Char) : Bool :=
  match s with
  | [] => false
  | q :: rest => isQuote q && (rest.getLast?.map isQuote).getD false && !rest.contains '\n'

/-- An optional minus, digits, and an optional point before the last digits. -/
def isNumeral (s : List Char) : Bool :=
  let s := if s.head? = some '-' then s.tail else s
  let whole := s.takeWhile Text.isDecimal
  match s.dropWhile Text.isDecimal with
  | [] => !whole.isEmpty
  | c :: fraction => c == '.' && !fraction.isEmpty && fraction.all Text.isDecimal

def isLiteral (s : List Char) : Bool :=
  let s := dropFinalNewline s
  isQuoted s || isNumeral s

/-! ### Paths -/

/-- The property a path is rooted at, negations apart; nothing for a literal. -/
def primaryName : List Char → List Char
  | [] => []
  | c :: cs =>
    if c = '!' then primaryName cs
    else if isLiteral (c :: cs) then []
    else (c :: cs).takeWhile (· ≠ '.')

/-! ### Calls -/

/-- What an escaped comma is written as while the arguments are told apart. -/
def commaMark : List Char := "&comma;".toList

/-- Every backslash gives way to the character after it, unless that is a line end. -/
def unescape : List Char → List Char
  | [] => []
  | '\\' :: c :: cs => if c = '\n' then '\\' :: '\n' :: unescape cs else c :: unescape cs
  | c :: cs => c :: unescape cs

/-- A call at the very start of the text: word characters, then parentheses that end at the last
closing one of the line. -/
def callHere (s : List Char) : Option (List Char × List Char) :=
  match s.dropWhile Text.isWord with
  | '(' :: rest => (Text.beforeLast [')'] rest).map fun args => (s.takeWhile Text.isWord, args)
  | _ => none

/-- The first call of a text, as the method and the text of its arguments. -/
def call : List Char → Option (List Char × List Char)
  | [] => none
  | c :: cs => (callHere (c :: cs)).orElse fun _ => call cs

/-- One argument of a call, told by its first character. -/
def argument (raw : List Char) : Argument :=
  let arg := unescape (Text.replace commaMark [','] (Text.strip raw))
  match arg with
  | [] => .path [] false false
  | c :: cs =>
    if isQuote c then .text arg cs.dropLast
    else if Text.isAsciiDigit c then .number arg (Number.read? arg)
    else
      let structured := c ≠ '.' ∧ cs.contains '.'
      if structured ∧ Text.endsWith ['.', '*'] arg then .path (arg.dropLast.dropLast) true true
      else .path arg structured false

/-- The arguments between the parentheses of a call. -/
def arguments (s : List Char) : List Argument :=
  if Text.isBlank s then []
  else (Text.splitOn ',' (Text.replace ['\\', ','] commaMark s)).map argument

/-! ### Parsing -/

/-- The expression of a text; without delimiters the whole text is one. -/
def parse (text : String) : Expression :=
  let s := (extractChars text.toList).getD (Text.strip text.toList)
  match call s with
  | some (method, args) =>
    { raw := text
      kind := .computed
      keys := (arguments args).map fun a => String.ofList (primaryName a.name)
      methods := [String.ofList method] }
  | none =>
    { raw := text
      kind := if isLiteral (s.dropWhile (· == '!')) then .literal else .reference
      keys := [String.ofList (primaryName s)]
      methods := [] }

end Expression

end ComponentLint
