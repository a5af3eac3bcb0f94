import ComponentLint.Policy.PathFilter

/-!
Requirements of a conformance policy. An entry of a policy file is read leniently: a scalar
stands for a list of one, and everything is turned into text as far as it has one. A requirement may be limited to
paths or exempt paths, but not both, and only a custom one names a module.
-/

namespace ComponentLint

/-- What a requirement bans. -/
inductive RequirementKind where
  | custom
  | bannedDependency
  | bannedName
  | bannedProperty
  | bannedPropertyRead
  | bannedPropertyWrite
  | restrictedNameCall
  | restrictedMethodCall
  | bannedCodePattern
  | bannedPropertyCall
  deriving DecidableEq, Repr, Inhabited

namespace RequirementKind

def all : List RequirementKind :=
  [custom, bannedDependency, bannedName, bannedProperty, bannedPropertyRead, bannedPropertyWrite,
   restrictedNameCall, restrictedMethodCall, bannedCodePattern, bannedPropertyCall]

def name : RequirementKind → String
  | custom => "CUSTOM"
  | bannedDependency => "BANNED_DEPENDENCY"
  | bannedName => "BANNED_NAME"
  | bannedProperty => "BANNED_PROPERTY"
  | bannedPropertyRead => "BANNED_PROPERTY_READ"
  | bannedPropertyWrite => "BANNED_PROPERTY_WRITE"
  | restrictedNameCall => "RESTRICTED_NAME_CALL"
  | restrictedMethodCall => "RESTRICTED_METHOD_CALL"
  | bannedCodePattern => "BANNED_CODE_PATTERN"
  | bannedPropertyCall => "BANNED_PROPERTY_CALL"

def ofName? (s : String) : Option RequirementKind := all.find? (·.name == s)

/-- The number of a kind in the policy format, from one. -/
def number : RequirementKind → Nat
  | custom => 1
  | bannedDependency => 2
  | bannedName => 3
  | bannedProperty => 4
  | bannedPropertyRead => 5
  | bannedPropertyWrite => 6
  | restrictedNameCall => 7
  | restrictedMethodCall => 8
  | bannedCodePattern => 9
  | bannedPropertyCall => 10

end RequirementKind

structure Requirement where
  kind : RequirementKind
  /-- The banned names, properties or patterns. -/
  value : List String := []
  errorMessage : Option String := none
  /-- The paths the requirement is limited to. -/
  only : Option PathFilter := none
  /-- The paths that are exempt. -/
  exempt : Option PathFilter := none
  jsModule : Option String := none
  ruleId : Option String := none

/-- An entry of a policy as text, before it is checked. -/
structure RequirementSpec where
  type : Option String := none
  value : List String := []
  errorMessage : Option String := none
  whitelist : Option (List String) := none
  whitelistRegexp : Option (List String) := none
  onlyApplyTo : Option (List String) := none
  onlyApplyToRegexp : Option (List String) := none
  jsModule : Option String := none
  ruleId : Option String := none

namespace RequirementSpec

def isMoment : Value → Bool
  | .moment .. => true
  | _ => false

/-- The values that one stands for where a list is expected: its items, its keys, or itself. -/
def parts : Value → List Value
  | .null => []
  | .list items => items
  | .map entries => entries.map (·.1)
  | v => [v]

/-- The texts of a value that is given as a list. -/
def elements (v : Value) : List String := (parts v).map (·.plain)

/-- The texts of a value, none at all if it is null. -/
def given : Value → Option (List String)
  | .null => none
  | v => some (elements v)

/-- The text of a value, none if it is null. -/
def text? : Value → Option String
  | .null => none
  | v => some v.plain

/-- A field that cannot be turned into text makes the entry malformed. -/
def unwritable : Fault := .malformedEntry "requirement"

def texts (v : Value) : Except Fault (Option (List String)) :=
  if (parts v).all (·.isWritable) then .ok (given v) else .error unwritable

def text (v : Value) : Except Fault (Option String) :=
  if v.isWritable then .ok (text? v) else .error unwritable

/-- The keys under which paths are given that a requirement is limited to. -/
def limitKeys : List String := ["only_apply_to", "only_apply_to_regexp"]

/-- The keys under which paths are given that are exempt. -/
def exemptKeys : List String := ["whitelist", "whitelist_regexp"]

/-- The keys under which lists are given. -/
def listKeys : List String := "value" :: limitKeys ++ exemptKeys

/-- The keys under which texts are given. -/
def textKeys : List String := ["type", "error_message", "js_module", "rule_id"]

/-- The entry as text. A moment in the place of a list stops the reading, whatever else is wrong with
the entry. -/
def ofEntries (entries : List (Value × Value)) : Except Fault RequirementSpec := do
  let get := fun key => Value.get key entries
  if listKeys.any fun key => isMoment (get key) then throw (.crash .wrongType)
  return {
    type := ← text (get "type")
    value := (← texts (get "value")).getD []
    errorMessage := ← text (get "error_message")
    whitelist := ← texts (get "whitelist")
    whitelistRegexp := ← texts (get "whitelist_regexp")
    onlyApplyTo := ← texts (get "only_apply_to")
    onlyApplyToRegexp := ← texts (get "only_apply_to_regexp")
    jsModule := ← text (get "js_module")
    ruleId := ← text (get "rule_id") }

end RequirementSpec

namespace Requirement

/-- An optional text, taken only when it is not empty. -/
def nonEmpty (s : Option String) : Option String := s.filter (· ≠ "")

/-- Checks what no requirement may break. -/
def validate (r : Requirement) : Except Fault Requirement :=
  let component := (nonEmpty r.ruleId).getD r.kind.name
  if r.only.isSome ∧ r.exempt.isSome then
    .error (.configuration component
      "a requirement cannot specify both whitelist* and only_apply_to*")
  else if (r.kind = .custom) ≠ (r.jsModule.isSome = true) then
    .error (.configuration component "only and all CUSTOM requirements must have a js_module")
  else .ok r

variable [Pattern.Engine]

def ofSpec (spec : RequirementSpec) : Except Fault Requirement := do
  let component := (nonEmpty spec.ruleId).getD "requirement"
  let type ← match nonEmpty spec.type with
    | none => throw (.configuration component "missing requirement type")
    | some t => pure t
  let kind ← match RequirementKind.ofName? type with
    | none =>
      throw (.configuration component ("invalid requirement type " ++ Text.quoted type))
    | some k => pure k
  let only ← PathFilter.build spec.onlyApplyTo spec.onlyApplyToRegexp component
  let exempt ← PathFilter.build spec.whitelist spec.whitelistRegexp component
  validate
    { kind := kind
      value := spec.value
      errorMessage := spec.errorMessage
      only := only
      exempt := exempt
      jsModule := spec.jsModule
      ruleId := spec.ruleId }

/-- The requirement an entry of a policy describes. -/
def ofValue : Value → Except Fault Requirement
  | .map entries => do ofSpec (← RequirementSpec.ofEntries entries)
  | _ => .error (.malformedEntry "requirement")

def appliesTo (r : Requirement) (path : String) : Bool :=
  (r.only.map (·.holds path)).getD true && !(r.exempt.map (·.holds path)).getD false

end Requirement

/-- Requirements in the order of their file. -/
structure Policy where
  requirements : List Requirement

namespace Policy

def applicableTo (p : Policy) (path : String) : List Requirement :=
  p.requirements.filter (·.appliesTo path)

def summary (p : Policy) : String := s!"Policy(requirements={p.requirements.length})"

variable [Pattern.Engine]

/-- The requirements of a list of entries, counted from `i`. -/
def ofEntries (i : Nat) : List Value → Except Fault (List Requirement)
  | [] => .ok []
  | entry :: rest => do
    let r ← match entry with
      | .map _ => Requirement.ofValue entry
      | _ => throw (.configuration s!"requirement[{i}]" "entry must be a mapping")
    return r :: (← ofEntries (i + 1) rest)

/-- The policy of a mapping with a `requirement` list. -/
def ofValue (config : Value) : Except Fault Policy :=
  let entries := match config with
    | .map es => Value.get "requirement" es
    | _ => .null
  match entries with
  | .list items => (ofEntries 0 items).map Policy.mk
  | _ => .error (.configuration "policy" "missing requirement array")

end Policy

end ComponentLint
