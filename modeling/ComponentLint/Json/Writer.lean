import ComponentLint.Text.Quoted
import ComponentLint.Diagnostic

/-!
Findings as a JSON list: two blanks of indentation a level, and only ASCII characters.
-/

namespace ComponentLint.Json

def unicodeEscape (n : Nat) : List Char := '\\' :: 'u' :: Text.hex 4 n

/-- One character of a string; beyond the basic plane it is a pair of surrogates. -/
def writeChar (c : Char) : List Char :=
  if c = '"' ∨ c = '\\' then ['\\', c]
  else if c = '\n' then ['\\', 'n']
  else if c = '\r' then ['\\', 'r']
  else if c = '\t' then ['\\', 't']
  else if c.toNat = 8 then ['\\', 'b']
  else if c.toNat = 12 then ['\\', 'f']
  else if 32 ≤ c.toNat ∧ c.toNat < 127 then [c]
  else if c.toNat < 0x10000 then unicodeEscape c.toNat
  else
    let n := c.toNat - 0x10000
    unicodeEscape (0xd800 + n / 1024) ++ unicodeEscape (0xdc00 + n % 1024)

def writeString (s : String) : String :=
  String.ofList ('"' :: s.toList.flatMap writeChar ++ ['"'])

def writeBool (b : Bool) : String := if b then "true" else "false"

/-- The lines of one finding. -/
def diagnosticLines (d : Diagnostic) : List String :=
  ["  \x7b",
   "    \"filename\": " ++ writeString d.filename ++ ",",
   "    \"location\": \x7b",
   "      \"line\": " ++ toString d.location.line ++ ",",
   "      \"column\": " ++ toString d.location.column,
   "    \x7d,",
   "    \"message\": " ++ writeString d.message ++ ",",
   "    \"fatal\": " ++ writeBool d.fatal,
   "  \x7d"]

def writeDiagnostics (ds : List Diagnostic) : String :=
  if ds.isEmpty then "[]"
  else
    let blocks := ds.map fun d => Text.joinWith "\n" (diagnosticLines d)
    "[\n" ++ Text.joinWith ",\n" blocks ++ "\n]"

end ComponentLint.Json
