import ComponentLint.Proofs.JsonValues
import ComponentLint.Proofs.NarrowedPolicy
import ComponentLint.Proofs.PathPrefixes

/-!
The requirement an entry of a policy describes.

An entry is read field by field: null and a missing key are the same, a scalar stands for the list
of it. A requirement comes out of it if the kind, the expressions, the filters and the module fit
together, and which entries these are is said on the entry itself; of any other entry a fault of the
configuration is reported.
-/

namespace ComponentLint

open Conformance (bind_eq_ok)
open Pattern (Engine)
open Value (get)

/-! ### Texts of values -/

namespace RequirementSpec

/-- A text, a number or a truth value. -/
def isScalar : Value → Bool
  | .bool _ | .int _ | .float _ | .str _ => true
  | _ => false

lemma isSome_given (v : Value) : (given v).isSome ↔ v ≠ .null := by
  cases v <;> simp [given]

lemma getD_given (v : Value) : (given v).getD [] = elements v := by
  cases v <;> rfl

lemma text?_eq_some_iff {v : Value} {s : String} : text? v = some s ↔ v ≠ .null ∧ v.plain = s := by
  cases v <;> simp [text?]

lemma isSome_text? (v : Value) : (text? v).isSome ↔ v ≠ .null := by
  cases v <;> simp [text?]

/-- A scalar gives the same texts as the list of it. -/
lemma texts_singleton {v : Value} (h : isScalar v) : texts (.list [v]) = texts v := by
  cases v <;> first | rfl | cases h

/-! ### Steps that need a text -/

/-- A step gives a result exactly under a condition, and finds the entry malformed otherwise. -/
def GivesIf {α : Type} (x : Except Fault α) (p : Prop) (a : α) : Prop :=
  p ∧ x = .ok a ∨ ¬p ∧ x = .error unwritable

lemma givesIf_pure {α : Type} (a : α) : GivesIf (.ok a) True a := Or.inl ⟨trivial, rfl⟩

lemma GivesIf.bind {α β : Type} {x : Except Fault α} {f : α → Except Fault β} {p q : Prop} {a : α}
    {b : β} (hx : GivesIf x p a) (hf : GivesIf (f a) q b) : GivesIf (x >>= f) (p ∧ q) b := by
  rcases hx with ⟨hp, rfl⟩ | ⟨hp, rfl⟩
  · exact hf.imp (fun ⟨hq, h⟩ => ⟨⟨hp, hq⟩, h⟩) fun ⟨hq, h⟩ => ⟨fun hpq => hq hpq.2, h⟩
  · exact Or.inr ⟨fun hpq => hp hpq.1, rfl⟩

lemma GivesIf.of_iff {α : Type} {x : Except Fault α} {p q : Prop} {a : α} (h : GivesIf x p a)
    (hiff : p ↔ q) : GivesIf x q a := by
  rwa [← propext hiff]

lemma givesIf_text (v : Value) : GivesIf (text v) v.isWritable (text? v) := by
  by_cases h : v.isWritable
  · exact Or.inl ⟨h, if_pos h⟩
  · exact Or.inr ⟨h, if_neg h⟩

lemma givesIf_texts (v : Value) : GivesIf (texts v) (∀ w ∈ parts v, w.isWritable) (given v) := by
  rw [← List.all_eq_true]
  by_cases h : (parts v).all (·.isWritable)
  · exact Or.inl ⟨h, if_pos h⟩
  · exact Or.inr ⟨h, if_neg h⟩

/-! ### Entries -/

/-- The entry as text. -/
def ofFields (entries : List (Value × Value)) : RequirementSpec where
  type := text? (get "type" entries)
  value := elements (get "value" entries)
  errorMessage := text? (get "error_message" entries)
  whitelist := given (get "whitelist" entries)
  whitelistRegexp := given (get "whitelist_regexp" entries)
  onlyApplyTo := given (get "only_apply_to" entries)
  onlyApplyToRegexp := given (get "only_apply_to_regexp" entries)
  jsModule := text? (get "js_module" entries)
  ruleId := text? (get "rule_id" entries)

/-- No field holds a moment. -/
def NoMoments (entries : List (Value × Value)) : Prop := ∀ e ∈ entries, ¬isMoment e.2

instance (entries : List (Value × Value)) : Decidable (NoMoments entries) :=
  inferInstanceAs (Decidable (∀ e ∈ entries, _))

/-- Every field that is read has a text, or texts. -/
structure IsWritten (entries : List (Value × Value)) : Prop where
  texts : ∀ key ∈ textKeys, (get key entries).isWritable
  lists : ∀ key ∈ listKeys, ∀ v ∈ parts (get key entries), v.isWritable

variable {entries : List (Value × Value)}

/-- What holds of null and of all values in a mapping holds of those that are looked up. -/
lemma get_of_forall {p : Value → Prop} (hnull : p .null) (h : ∀ e ∈ entries, p e.2)
    (key : String) : p (get key entries) := by
  rw [Value.get, Value.lookup]
  cases hfind : entries.find? fun e => e.1.isString key with
  | none => exact hnull
  | some e => exact h e (List.mem_of_find?_eq_some hfind)

lemma isWritten_iff : IsWritten entries ↔
    (∀ key ∈ textKeys, (get key entries).isWritable) ∧
      ∀ key ∈ listKeys, ∀ v ∈ parts (get key entries), v.isWritable :=
  ⟨fun h => ⟨h.texts, h.lists⟩, fun h => ⟨h.1, h.2⟩⟩

/-- An entry without moments is turned into text, or found malformed. -/
lemma givesIf_ofEntries (h : NoMoments entries) :
    GivesIf (ofEntries entries) (IsWritten entries) (ofFields entries) := by
  have hmoments : ¬listKeys.any fun key => isMoment (get key entries) := by
    rw [List.any_eq_true]
    rintro ⟨key, -, hmoment⟩
    exact get_of_forall (p := fun v => ¬isMoment v) Bool.false_ne_true h key hmoment
  have hwritten : IsWritten entries ↔ _ := isWritten_iff
  simp only [textKeys, listKeys, limitKeys, exemptKeys, List.cons_append, List.nil_append,
    List.forall_mem_cons] at hwritten
  unfold ofEntries
  rw [if_neg hmoments, ofFields, ← getD_given]
  refine GivesIf.of_iff ((givesIf_text _).bind <| (givesIf_texts _).bind <| (givesIf_text _).bind <|
      (givesIf_texts _).bind <| (givesIf_texts _).bind <| (givesIf_texts _).bind <|
      (givesIf_texts _).bind <| (givesIf_text _).bind <| (givesIf_text _).bind <| givesIf_pure _) ?_
  rw [hwritten]
  tauto

/-! ### Entries from JSON -/

lemma isWritable_of_mem_parts {v w : Value} (h : v.isWritable) (hw : w ∈ parts v) :
    w.isWritable := by
  cases v with
  | null => cases hw
  | list items => exact Value.areWritable_iff.1 h w hw
  | map entries =>
    obtain ⟨e, he, rfl⟩ := List.mem_map.1 hw
    exact (Value.areWritableEntries_iff.1 h e he).1
  | _ =>
    obtain rfl := List.mem_singleton.1 hw
    exact h

/-- No field of an entry that JSON holds is a moment. -/
theorem noMoments_of_parse {text : String} (h : Json.parse text = .ok (.map entries)) :
    NoMoments entries := by
  intro e he
  have hjson := (Value.isJson_map_iff.1 (Json.isJson_of_parse h) e he).2
  generalize e.2 = v at hjson
  cases hjson <;> exact Bool.false_ne_true

/-- Every field of an entry that JSON holds has its texts. -/
lemma isWritten_of_parse {text : String} (h : Json.parse text = .ok (.map entries)) :
    IsWritten entries := by
  have hget := get_of_forall (p := (·.isWritable)) rfl fun e he =>
    (Value.isJson_map_iff.1 (Json.isJson_of_parse h) e he).2.isWritable
  exact ⟨fun key _ => hget key, fun key _ v hv => isWritable_of_mem_parts (hget key) hv⟩

end RequirementSpec

/-! ### Filters -/

namespace PathFilter

variable [Engine] {values regexps : Option (List String)} {component : String}

lemma exists_compile_iff {source : String} :
    (∃ p, compile component source = .ok p) ↔ ∃ test, Engine.compile source = .ok test := by
  rw [compile]
  cases Engine.compile source <;> simp

/-- What fails is reported as a fault of the configuration, if the search does not fail itself. -/
lemma compile_error {source : String} {e : Fault} (h : compile component source = .error e) :
    (∃ reason, e = .configuration component reason) ∨
      ∃ c, e = .crash c ∧ Engine.compile source = .error (.crash c) := by
  rw [compile] at h
  split at h
  · cases h
  · rename_i f hcompile
    cases h
    cases f with
    | invalid => exact Or.inl ⟨_, rfl⟩
    | crash c => exact Or.inr ⟨c, rfl, hcompile⟩

/-- Expressions are compiled one by one, and the first that fails gives the fault. -/
lemma mapM_compile (component : String) (sources : List String) :
    ((∃ ps, sources.mapM (compile component) = .ok ps) ∧
      ∀ source ∈ sources, ∃ test, Engine.compile source = .ok test) ∨
    ∃ e, sources.mapM (compile component) = .error e ∧
      ∃ source ∈ sources, compile component source = .error e := by
  induction sources with
  | nil => exact Or.inl ⟨⟨[], rfl⟩, List.forall_mem_nil _⟩
  | cons source sources ih =>
    rw [List.mapM_cons]
    cases hcompile : compile component source with
    | error e => exact Or.inr ⟨e, rfl, source, List.mem_cons_self, hcompile⟩
    | ok p =>
      rcases ih with ⟨⟨ps, hps⟩, hall⟩ | ⟨e, he, source', hmem, hfail⟩
      · refine Or.inl ⟨⟨p :: ps, by rw [hps]; rfl⟩, List.forall_mem_cons.2 ⟨?_, hall⟩⟩
        exact exists_compile_iff.1 ⟨p, hcompile⟩
      · exact Or.inr ⟨e, by rw [he]; rfl, source', List.mem_cons_of_mem _ hmem, hfail⟩

lemma isSome_of_build {f : Option PathFilter} (h : build values regexps component = .ok f) :
    f.isSome ↔ values.isSome ∨ regexps.isSome := by
  rw [build] at h
  split_ifs at h with hnone
  · cases h
    simpa [Option.isNone_iff_eq_none, Option.isSome_iff_ne_none] using hnone
  · obtain ⟨ps, -, hf⟩ := bind_eq_ok.1 h
    cases hf
    simpa [Option.isNone_iff_eq_none, Option.isSome_iff_ne_none, or_iff_not_imp_left] using hnone

/-- A filter is built unless one of its expressions cannot be compiled. -/
lemma build_cases (values regexps : Option (List String)) (component : String) :
    ((∃ f, build values regexps component = .ok f) ∧
      ∀ source ∈ regexps.getD [], ∃ test, Engine.compile source = .ok test) ∨
    ∃ e, build values regexps component = .error e ∧
      ∃ source ∈ regexps.getD [], compile component source = .error e := by
  rw [build]
  split_ifs with hnone
  · rw [Option.isNone_iff_eq_none.1 hnone.2]
    exact Or.inl ⟨⟨none, rfl⟩, List.forall_mem_nil _⟩
  · rcases mapM_compile component (regexps.getD []) with ⟨⟨ps, hps⟩, hall⟩ | ⟨e, he, hfail⟩
    · exact Or.inl ⟨⟨_, by rw [hps]; rfl⟩, hall⟩
    · exact Or.inr ⟨e, by rw [he]; rfl, hfail⟩

/-- A filter without entries matches nothing. -/
lemma not_holds_of_build {f : PathFilter} (h : build values regexps component = .ok (some f))
    (hvalues : values.getD [] = []) (hregexps : regexps.getD [] = []) (path : String) :
    ¬f.holds path := by
  obtain ⟨hv, hp⟩ := of_build h
  rw [hregexps, List.forall₂_nil_left_iff] at hp
  rw [holds, hv, hvalues, hp, Bool.or_eq_true, matchesPrefix_iff]
  simp

end PathFilter

/-! ### Requirements -/

lemma RequirementKind.ofName?_eq_some_iff {s : String} {kind : RequirementKind} :
    ofName? s = some kind ↔ s = kind.name := by
  constructor
  · intro h
    have hname := List.find?_some h
    exact (beq_iff_eq.1 hname).symm
  · rintro rfl
    cases kind <;> decide

lemma RequirementKind.name_injective : Function.Injective RequirementKind.name := by
  intro a b h
  exact Option.some.inj ((ofName?_eq_some_iff.2 rfl).symm.trans (ofName?_eq_some_iff.2 h))

namespace Requirement

/-! ### Entries -/

open RequirementSpec

variable {entries : List (Value × Value)}

def HasAny (keys : List String) (entries : List (Value × Value)) : Prop :=
  ∃ key ∈ keys, get key entries ≠ .null

/-- The expressions of an entry. -/
def sources (entries : List (Value × Value)) : List String :=
  elements (get "only_apply_to_regexp" entries) ++ elements (get "whitelist_regexp" entries)

lemma hasAny_limitKeys : HasAny limitKeys entries ↔
    (given (get "only_apply_to" entries)).isSome ∨
      (given (get "only_apply_to_regexp" entries)).isSome := by
  simp [HasAny, limitKeys, isSome_given]

lemma hasAny_exemptKeys : HasAny exemptKeys entries ↔
    (given (get "whitelist" entries)).isSome ∨ (given (get "whitelist_regexp" entries)).isSome := by
  simp [HasAny, exemptKeys, isSome_given]

/-- Null spells no kind, so the text of a type that names one is its own. -/
lemma text_type {kind : RequirementKind} (h : (get "type" entries).plain = kind.name) :
    text? (get "type" entries) = some kind.name := by
  refine text?_eq_some_iff.2 ⟨fun hnull => ?_, h⟩
  rw [hnull] at h
  revert h
  cases kind <;> decide

lemma sources_eq : (ofFields entries).onlyApplyToRegexp.getD [] ++
    (ofFields entries).whitelistRegexp.getD [] = sources entries :=
  congrArg₂ _ (getD_given _) (getD_given _)

/-! ### Scalars and lists -/

/-- A scalar as the list of it. -/
def asList (v : Value) : Value := if isScalar v then .list [v] else v

/-- The entry with every scalar under some keys made the list of it. -/
def listed (keys : List String) (entries : List (Value × Value)) : List (Value × Value) :=
  entries.map fun e => (e.1, if keys.any (e.1.isString ·) then asList e.2 else e.2)

lemma isString_iff {s : String} {v : Value} : v.isString s ↔ v = .str s := by
  cases v <;> simp [Value.isString]

lemma texts_asList (v : Value) : texts (asList v) = texts v := by
  unfold asList
  split_ifs with h
  · exact texts_singleton h
  · rfl

lemma get_listed (keys : List String) (key : String) :
    get key (listed keys entries) =
      if key ∈ keys then asList (get key entries) else get key entries := by
  simp only [Value.get, Value.lookup, listed, List.find?_map, Function.comp_def]
  cases hfind : entries.find? fun e => e.1.isString key with
  | none => exact (ite_self _).symm
  | some e =>
    have hfound := List.find?_some hfind
    have hmem : keys.any (e.1.isString ·) ↔ key ∈ keys := by
      simp [isString_iff.1 hfound, Value.isString]
    simp only [Option.map_some, Option.getD_some, hmem]

lemma texts_get_listed (keys : List String) (key : String) :
    texts (get key (listed keys entries)) = texts (get key entries) := by
  rw [get_listed]
  split_ifs
  · exact texts_asList _
  · rfl

lemma isMoment_asList (v : Value) : isMoment (asList v) = isMoment v := by
  cases v <;> rfl

lemma isMoment_get_listed (keys : List String) (key : String) :
    isMoment (get key (listed keys entries)) = isMoment (get key entries) := by
  rw [get_listed]
  split_ifs
  · exact isMoment_asList _
  · rfl

lemma get_listed_of_not_mem {keys : List String} {key : String} (h : key ∉ keys) :
    get key (listed keys entries) = get key entries := by
  rw [get_listed, if_neg h]

/-! ### Requirements that are built -/

/-- The component that faults of an entry are put down to. -/
def component (spec : RequirementSpec) : String := (nonEmpty spec.ruleId).getD "requirement"

/-- The requirement of an entry, once its kind and its filters are known. -/
def assemble (spec : RequirementSpec) (kind : RequirementKind) (only exempt : Option PathFilter) :
    Requirement where
  kind := kind
  value := spec.value
  errorMessage := spec.errorMessage
  only := only
  exempt := exempt
  jsModule := spec.jsModule
  ruleId := spec.ruleId

lemma validate_cases (r : Requirement) :
    validate r = .ok r ∧ ¬(r.only.isSome ∧ r.exempt.isSome) ∧
        (r.jsModule.isSome ↔ r.kind = .custom) ∨
      (∃ component reason, validate r = .error (.configuration component reason)) ∧
        ¬(¬(r.only.isSome ∧ r.exempt.isSome) ∧ (r.jsModule.isSome ↔ r.kind = .custom)) := by
  rw [validate]
  split_ifs with hfilters hmodule
  · exact Or.inr ⟨⟨_, _, rfl⟩, fun h => h.1 hfilters⟩
  · exact Or.inr ⟨⟨_, _, rfl⟩, fun h => hmodule (propext h.2.symm)⟩
  · rw [not_not] at hmodule
    exact Or.inl ⟨rfl, hfilters, hmodule ▸ Iff.rfl⟩

section

variable [Engine] {spec : RequirementSpec}

/-- What is reported of an entry with these expressions that gives no requirement: a fault of the
configuration. Only a search that fails by itself on an expression is reported as it is. -/
def IsRefusal (sources : List String) (e : Fault) : Prop :=
  (∃ component reason, e = .configuration component reason) ∨
    (∃ component, e = .malformedEntry component) ∨
    ∃ c, e = .crash c ∧ ∃ source ∈ sources, Engine.compile source = .error (.crash c)

/-- The filter of the paths that an entry is limited to. -/
def only? (spec : RequirementSpec) : Except Fault (Option PathFilter) :=
  PathFilter.build spec.onlyApplyTo spec.onlyApplyToRegexp (component spec)

/-- The filter of the paths that an entry exempts. -/
def exempt? (spec : RequirementSpec) : Except Fault (Option PathFilter) :=
  PathFilter.build spec.whitelist spec.whitelistRegexp (component spec)

/-- The filters are built one after the other, and then the requirement is checked. -/
lemma ofSpec_of_kind {kind : RequirementKind} (h : spec.type = some kind.name) :
    ofSpec spec = (only? spec >>= fun only => exempt? spec >>= fun exempt =>
      validate (assemble spec kind only exempt)) := by
  have hname : nonEmpty spec.type = some kind.name := by
    rw [h]
    cases kind <;> decide
  have hkind : RequirementKind.ofName? kind.name = some kind :=
    RequirementKind.ofName?_eq_some_iff.2 rfl
  rw [ofSpec, hname]
  simp only [pure_bind, hkind]
  rfl

lemma ofSpec_of_filters {kind : RequirementKind} (h : spec.type = some kind.name) :
    (∃ only exempt, only? spec = .ok only ∧ exempt? spec = .ok exempt ∧
      ofSpec spec = validate (assemble spec kind only exempt) ∧
      ∀ source ∈ spec.onlyApplyToRegexp.getD [] ++ spec.whitelistRegexp.getD [],
        ∃ test, Engine.compile source = .ok test) ∨
    ∃ e, ofSpec spec = .error e ∧
      ∃ source ∈ spec.onlyApplyToRegexp.getD [] ++ spec.whitelistRegexp.getD [],
        PathFilter.compile (component spec) source = .error e := by
  rw [ofSpec_of_kind h]
  rcases PathFilter.build_cases spec.onlyApplyTo spec.onlyApplyToRegexp (component spec) with
    ⟨⟨only, honly⟩, hlimits⟩ | ⟨e, herror, source, hmem, hfail⟩
  · rcases PathFilter.build_cases spec.whitelist spec.whitelistRegexp (component spec) with
      ⟨⟨exempt, hexempt⟩, hexempts⟩ | ⟨e, herror, source, hmem, hfail⟩
    · refine Or.inl ⟨only, exempt, honly, hexempt, ?_, ?_⟩
      · rw [only?, honly, exempt?, hexempt]
        rfl
      · exact List.forall_mem_append.2 ⟨hlimits, hexempts⟩
    · refine Or.inr ⟨e, ?_, source, List.mem_append_right _ hmem, hfail⟩
      rw [only?, honly, exempt?, herror]
      rfl
  · refine Or.inr ⟨e, ?_, source, List.mem_append_left _ hmem, hfail⟩
    rw [only?, herror]
    rfl

lemma ofSpec_of_no_kind (h : ∀ kind : RequirementKind, spec.type ≠ some kind.name) :
    ∃ component reason, ofSpec spec = .error (.configuration component reason) := by
  rw [ofSpec]
  cases htype : nonEmpty spec.type with
  | none => exact ⟨_, _, rfl⟩
  | some type =>
    have hkind : RequirementKind.ofName? type = none := by
      refine Option.eq_none_iff_forall_not_mem.2 fun kind hkind => h kind ?_
      rw [← RequirementKind.ofName?_eq_some_iff.1 hkind]
      exact (Option.filter_eq_some_iff.1 htype).1
    simp only [pure_bind, hkind]
    exact ⟨_, _, rfl⟩

/-- An entry of which a requirement can be made: its type names a kind, a module is given exactly
for a custom one, every expression compiles, and only one of the two filters is given. -/
structure IsSound (entries : List (Value × Value)) : Prop where
  kind : ∃ kind : RequirementKind, (get "type" entries).plain = kind.name ∧
    (get "js_module" entries ≠ .null ↔ kind = .custom)
  compiles : ∀ source ∈ sources entries, ∃ test, Engine.compile source = .ok test
  filters : ¬(HasAny limitKeys entries ∧ HasAny exemptKeys entries)

/-- A requirement says what an entry says. -/
structure Describes (entries : List (Value × Value)) (r : Requirement) : Prop where
  kind : r.kind.name = (get "type" entries).plain
  value : r.value = elements (get "value" entries)
  errorMessage : r.errorMessage = text? (get "error_message" entries)
  only : ∃ component, PathFilter.build (given (get "only_apply_to" entries))
    (given (get "only_apply_to_regexp" entries)) component = .ok r.only
  exempt : ∃ component, PathFilter.build (given (get "whitelist" entries))
    (given (get "whitelist_regexp" entries)) component = .ok r.exempt
  jsModule : r.jsModule = text? (get "js_module" entries)
  ruleId : r.ruleId = text? (get "rule_id" entries)

lemma Describes.isSome_only {r : Requirement} (h : Describes entries r) :
    r.only.isSome ↔ HasAny limitKeys entries := by
  obtain ⟨component, hbuild⟩ := h.only
  rw [hasAny_limitKeys, PathFilter.isSome_of_build hbuild]

lemma Describes.isSome_exempt {r : Requirement} (h : Describes entries r) :
    r.exempt.isSome ↔ HasAny exemptKeys entries := by
  obtain ⟨component, hbuild⟩ := h.exempt
  rw [hasAny_exemptKeys, PathFilter.isSome_of_build hbuild]

/-- A filter that is given without any path or expression matches nothing. -/
lemma not_holds_of_given {v w : Value} {component : String} {f : PathFilter}
    (h : PathFilter.build (given v) (given w) component = .ok (some f)) (hv : elements v = [])
    (hw : elements w = []) (path : String) : ¬f.holds path :=
  PathFilter.not_holds_of_build h ((getD_given v).trans hv) ((getD_given w).trans hw) path

lemma Describes.not_holds_only {r : Requirement} {f : PathFilter} (h : Describes entries r)
    (hempty : ∀ key ∈ limitKeys, elements (get key entries) = []) (hf : f ∈ r.only)
    (path : String) : ¬f.holds path := by
  obtain ⟨component, hbuild⟩ := h.only
  rw [Option.mem_def.1 hf] at hbuild
  exact not_holds_of_given hbuild (hempty _ (by decide)) (hempty _ (by decide)) path

lemma Describes.not_holds_exempt {r : Requirement} {f : PathFilter} (h : Describes entries r)
    (hempty : ∀ key ∈ exemptKeys, elements (get key entries) = []) (hf : f ∈ r.exempt)
    (path : String) : ¬f.holds path := by
  obtain ⟨component, hbuild⟩ := h.exempt
  rw [Option.mem_def.1 hf] at hbuild
  exact not_holds_of_given hbuild (hempty _ (by decide)) (hempty _ (by decide)) path

/-- An expression that cannot be compiled makes an entry unsound, and is reported. -/
lemma refused_of_compile {component source : String} {e : Fault}
    (h : PathFilter.compile component source = .error e) (hmem : source ∈ sources entries) :
    ¬IsSound entries ∧ IsRefusal (sources entries) e := by
  constructor
  · intro hsound
    obtain ⟨p, hp⟩ := PathFilter.exists_compile_iff.2 (hsound.compiles source hmem)
    rw [h] at hp
    cases hp
  · exact (PathFilter.compile_error h).imp (fun ⟨reason, he⟩ => ⟨component, reason, he⟩)
      fun ⟨c, he, hcompile⟩ => Or.inr ⟨c, he, source, hmem, hcompile⟩

/-- The text of an entry gives the requirement it describes if the entry is sound. -/
lemma ofSpec_cases (entries : List (Value × Value)) :
    (IsSound entries ∧ ∃ r, ofSpec (ofFields entries) = .ok r ∧ Describes entries r) ∨
      (¬IsSound entries ∧
        ∃ e, ofSpec (ofFields entries) = .error e ∧ IsRefusal (sources entries) e) := by
  by_cases hkind : ∃ kind : RequirementKind, (get "type" entries).plain = kind.name
  swap
  · refine Or.inr ⟨fun hsound => hkind ?_, ?_⟩
    · obtain ⟨kind, hname, -⟩ := hsound.kind
      exact ⟨kind, hname⟩
    · have hnone : ∀ kind : RequirementKind, (ofFields entries).type ≠ some kind.name :=
        fun kind htype => hkind ⟨kind, (text?_eq_some_iff.1 htype).2⟩
      obtain ⟨component, reason, herror⟩ := ofSpec_of_no_kind hnone
      exact ⟨_, herror, Or.inl ⟨component, reason, rfl⟩⟩
  obtain ⟨kind, hname⟩ := hkind
  have htype : (ofFields entries).type = some kind.name := text_type hname
  have hfilters := ofSpec_of_filters htype
  rw [sources_eq] at hfilters
  rcases hfilters with
    ⟨only, exempt, honly, hexempt, hrun, hcompiles⟩ | ⟨e, hrun, source, hmem, hfail⟩
  swap
  · obtain ⟨hunsound, hrefusal⟩ := refused_of_compile hfail hmem
    exact Or.inr ⟨hunsound, e, hrun, hrefusal⟩
  set r := assemble (ofFields entries) kind only exempt
  have hdescribes : Describes entries r :=
    ⟨hname.symm, rfl, rfl, ⟨_, honly⟩, ⟨_, hexempt⟩, rfl, rfl⟩
  have hmodule : r.jsModule.isSome ↔ get "js_module" entries ≠ .null := isSome_text? _
  have hvalidate := validate_cases r
  rw [hdescribes.isSome_only, hdescribes.isSome_exempt, hmodule] at hvalidate
  rw [hrun]
  rcases hvalidate with ⟨hok, hone, hcustom⟩ | ⟨⟨component, reason, herror⟩, hbroken⟩
  · exact Or.inl ⟨⟨⟨kind, hname, hcustom⟩, hcompiles, hone⟩, r, hok, hdescribes⟩
  · refine Or.inr ⟨fun hsound => hbroken ⟨hsound.filters, ?_⟩, _, herror,
      Or.inl ⟨component, reason, rfl⟩⟩
    obtain ⟨kind', hname', hcustom⟩ := hsound.kind
    have hsame : kind' = kind := RequirementKind.name_injective (hname'.symm.trans hname)
    rwa [hsame] at hcustom

/-- **An entry gives the requirement it describes if it is sound and has its texts, and is refused
otherwise.** -/
lemma ofValue_cases (h : NoMoments entries) :
    ((IsSound entries ∧ IsWritten entries) ∧
      ∃ r, ofValue (.map entries) = .ok r ∧ Describes entries r) ∨
    (¬(IsSound entries ∧ IsWritten entries) ∧
      ∃ e, ofValue (.map entries) = .error e ∧ IsRefusal (sources entries) e) := by
  rw [ofValue]
  rcases givesIf_ofEntries h with ⟨hwritten, hfields⟩ | ⟨hunwritten, hfields⟩
  · rw [hfields]
    exact (ofSpec_cases entries).imp (fun ⟨hsound, hr⟩ => ⟨⟨hsound, hwritten⟩, hr⟩)
      fun ⟨hunsound, he⟩ => ⟨fun hboth => hunsound hboth.1, he⟩
  · rw [hfields]
    exact Or.inr ⟨fun hboth => hunwritten hboth.2, _, rfl, Or.inr (Or.inl ⟨_, rfl⟩)⟩

/-- Where lists are expected, a scalar and the list of it are read alike. -/
lemma ofValue_listed {keys : List String} (hkeys : keys ⊆ listKeys) :
    ofValue (.map (listed keys entries)) = ofValue (.map entries) := by
  have hother : ∀ key, key ∉ listKeys → get key (listed keys entries) = get key entries :=
    fun key h => get_listed_of_not_mem fun hmem => h (hkeys hmem)
  rw [ofValue, ofValue, ofEntries, ofEntries]
  simp only [isMoment_get_listed, texts_get_listed, hother "type" (by decide),
    hother "error_message" (by decide), hother "js_module" (by decide),
    hother "rule_id" (by decide)]

/-- **Which entries give a requirement, and which one.** Of an entry without moments a requirement
is made exactly if it is sound and its fields have texts, as those from JSON do; it says what the
entry says, and any other entry is refused. A requirement has at most one filter, and applies to the
paths that one lets through; lists of paths without a path make a filter that matches nothing.
Nothing changes if scalars are given as lists. -/
theorem ofValue_of_entry (h : NoMoments entries) :
    ((∃ r, ofValue (.map entries) = .ok r) ↔ IsSound entries ∧ IsWritten entries) ∧
    (¬(IsSound entries ∧ IsWritten entries) →
      ∃ e, ofValue (.map entries) = .error e ∧ IsRefusal (sources entries) e) ∧
    (∀ text, Json.parse text = .ok (.map entries) → IsWritten entries) ∧
    (∀ r, ofValue (.map entries) = .ok r → Describes entries r ∧
      (r.only.isSome ↔ HasAny limitKeys entries) ∧ (r.exempt.isSome ↔ HasAny exemptKeys entries) ∧
      ¬(r.only.isSome ∧ r.exempt.isSome) ∧
      (∀ path, r.appliesTo path ↔ (∀ f ∈ r.only, f.holds path) ∧ ∀ f ∈ r.exempt, ¬f.holds path) ∧
      ((∀ key ∈ limitKeys, elements (get key entries) = []) →
        ∀ f ∈ r.only, ∀ path, ¬f.holds path) ∧
      ((∀ key ∈ exemptKeys, elements (get key entries) = []) →
        ∀ f ∈ r.exempt, ∀ path, ¬f.holds path)) ∧
    ∀ keys ⊆ listKeys, ofValue (.map (listed keys entries)) = ofValue (.map entries) := by
  have hcases := ofValue_cases h
  refine ⟨⟨?_, ?_⟩, ?_, fun text => isWritten_of_parse, ?_, fun keys hkeys => ofValue_listed hkeys⟩
  · rintro ⟨r, hr⟩
    rcases hcases with ⟨hfit, -⟩ | ⟨-, e, he, -⟩
    · exact hfit
    · rw [hr] at he
      cases he
  · intro hfit
    rcases hcases with ⟨-, r, hr, -⟩ | ⟨hunfit, -⟩
    · exact ⟨r, hr⟩
    · exact absurd hfit hunfit
  · intro hunfit
    rcases hcases with ⟨hfit, -⟩ | ⟨-, hrefused⟩
    · exact absurd hfit hunfit
    · exact hrefused
  · intro r hr
    rcases hcases with ⟨⟨hsound, -⟩, r', hr', hdescribes⟩ | ⟨-, e, he, -⟩
    swap
    · rw [hr] at he
      cases he
    obtain rfl : r = r' := Except.ok.inj (hr.symm.trans hr')
    refine ⟨hdescribes, hdescribes.isSome_only, hdescribes.isSome_exempt, ?_,
      fun path => appliesTo_iff, ?_, ?_⟩
    · rw [hdescribes.isSome_only, hdescribes.isSome_exempt]
      exact hsound.filters
    · exact fun hempty f hf path => hdescribes.not_holds_only hempty hf path
    · exact fun hempty f hf path => hdescribes.not_holds_exempt hempty hf path

end

/-- A ban on `eval`, given as a scalar, with a list of exempt paths that is empty. -/
def evalEntry : List (Value × Value) :=
  [(.str "type", .str "BANNED_NAME"), (.str "value", .str "eval"), (.str "whitelist", .list []),
   (.str "only_apply_to", .null)]

/-- The empty list is a filter all the same, and exempts no path. -/
theorem ofValue_evalEntry : letI := PathFilter.dotMin
    NoMoments evalEntry ∧ ∃ r, ofValue (.map evalEntry) = .ok r ∧ r.value = ["eval"] ∧
      r.only.isNone ∧ r.exempt.isSome ∧ (∀ path, r.appliesTo path) ∧
      ofValue (.map (listed ["value"] evalEntry)) = .ok r := by
  let _ := PathFilter.dotMin
  have hmoments : NoMoments evalEntry := by decide
  obtain ⟨hok, -, -, hr, hlisted⟩ := ofValue_of_entry hmoments
  have hlimits : ∀ key ∈ limitKeys, get key evalEntry = .null := by
    intro key hkey
    fin_cases hkey <;> rfl
  have hsound : IsSound evalEntry :=
    { kind := ⟨.bannedName, rfl, iff_of_false (fun h => h rfl) (by decide)⟩
      compiles := nofun
      filters := fun ⟨⟨key, hkey, hne⟩, _⟩ => hne (hlimits key hkey) }
  have hwritten : IsWritten evalEntry := isWritten_iff.2 (by decide)
  obtain ⟨r, hvalue⟩ := hok.2 ⟨hsound, hwritten⟩
  obtain ⟨hdescribes, honly, hexempt, -, happlies, -, hempty⟩ := hr r hvalue
  have hnone : r.only = none := by
    rw [← Option.not_isSome_iff_eq_none, honly]
    exact fun ⟨key, hkey, hne⟩ => hne (hlimits key hkey)
  refine ⟨hmoments, r, hvalue, hdescribes.value, by rw [hnone]; rfl,
    hexempt.2 ⟨"whitelist", by decide, nofun⟩, fun path => (happlies path).2 ⟨?_, ?_⟩, ?_⟩
  · rw [hnone]
    exact nofun
  · refine fun f hf => hempty (fun key hkey => ?_) f hf path
    fin_cases hkey <;> rfl
  · rw [hlisted _ (by decide), hvalue]

end Requirement

end ComponentLint
