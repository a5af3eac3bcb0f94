import ComponentLint.Script.Grammar.Statement

/-!
The grammar of scripts as a whole. The constructs that contain themselves are statements,
expressions, patterns and elements; the rules for all others are written against those four. The
program runs with this grammar; nothing is proved of it.
-/

namespace ComponentLint.Script

namespace Grammar

open Scan

/-- The rules to a depth of nesting. -/
def rules : Nat → Rules
  | 0 => ⟨failure, fun _ => failure, failure, failure⟩
  | depth + 1 =>
    let r := rules depth
    ⟨statement r, expression r, pattern r, element r⟩

mutual

/-- Puts comments into the innermost node around them. -/
def withComments (comments : List Node) : Node → Node
  | .mk kind start stop field named children =>
    .mk kind start stop field named (amongChildren comments children)

/-- Puts comments between and into nodes. -/
def amongChildren (comments : List Node) : List Node → List Node
  | [] => comments
  | n :: ns =>
    comments.filter (·.start < n.start) ++
      withComments (comments.filter fun c => n.start ≤ c.start && c.stop ≤ n.stop) n ::
      amongChildren (comments.filter fun c => n.start ≤ c.start && n.stop < c.stop) ns

end

/-- A whole script. -/
def program (r : Rules) : Reader Node := do
  let s := (← get).rest
  let bang ← if ['#', '!'].isPrefixOf s then do
      pure [← leafHere "hash_bang_line" (s.takeWhile fun c => c ≠ '\n' ∧ c ≠ '\r').length]
    else pure []
  let body ← many (do
    beginOperand
    if (← get).rest.isEmpty then return none else return some (← r.statement))
  let children := amongChildren (← get).comments.reverse (bang ++ body)
  let total := (← get).offset
  return .mk "program" ((children.head?.map (·.start)).getD total) total none true children

end Grammar

/-- The syntax tree of a script; text that is not a script gives a single node that says so. -/
def parseTree (text : String) : Node :=
  let s := text.toList
  match (Grammar.program (Grammar.rules (s.length + 2))).run { rest := s } with
  | some (n, _) => n
  | none => .mk "ERROR" 0 (Scan.byteLength s) none true []

end ComponentLint.Script
