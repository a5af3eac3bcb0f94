import ComponentLint.Binding.Expression

/-!
Binding delimiters that do not pair up: an opening closed by a single brace or bracket, a closing
opened by a single one, and openings and closings that do not alternate.
-/

namespace ComponentLint.Binding

/-- Whether the text, right after a doubled delimiter, closes with a single `closing`: the first
run of `closing` is one long. -/
def closesSingly (closing : Char) (s : List Char) : Bool :=
  match s.dropWhile (· ≠ closing) with
  | [] => false
  | _ :: rest => rest.head? != some closing

/-- Whether some doubled `opening` is closed by a single `closing`. -/
def hasSingleClose (opening closing : Char) : List Char → Bool
  | [] => false
  | c :: cs =>
    ([opening, opening].isPrefixOf (c :: cs) && closesSingly closing (cs.drop 1)) ||
      hasSingleClose opening closing cs

/-- The doubled delimiters from left to right, each as whether it opens; `skip` is set on the
second character of one. -/
def delimiters (opening closing : Char) : Bool → List Char → List Bool
  | _, [] => []
  | true, _ :: cs => delimiters opening closing false cs
  | false, c :: cs =>
    if [opening, opening].isPrefixOf (c :: cs) then true :: delimiters opening closing true cs
    else if [closing, closing].isPrefixOf (c :: cs) then
      false :: delimiters opening closing true cs
    else delimiters opening closing false cs

/-- Whether openings and closings alternate, from an opening to a closing. -/
def alternates : List Bool → Bool
  | [] => true
  | true :: false :: rest => alternates rest
  | _ => false

/-- Whether the delimiters of one kind fail to pair up. -/
def isUnpaired (opening closing : Char) (s : List Char) : Bool :=
  !alternates (delimiters opening closing false s)

def isUnbalancedChars (s : List Char) : Bool :=
  hasSingleClose '{' '}' s || hasSingleClose '[' ']' s ||
  hasSingleClose '}' '{' s.reverse || hasSingleClose ']' '[' s.reverse ||
  isUnpaired '{' '}' s || isUnpaired '[' ']' s

/-- Whether the binding delimiters of a text do not pair up. -/
def isUnbalanced (text : String) : Bool := isUnbalancedChars text.toList

/-- The text itself when its delimiters do not pair up. -/
def unbalanced? (text : String) : Option String := if isUnbalanced text then some text else none

def isBound (text : String) : Bool := (Expression.extract text).isSome

end ComponentLint.Binding
