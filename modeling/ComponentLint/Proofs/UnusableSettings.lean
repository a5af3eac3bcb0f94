import ComponentLint.Command.Lint
import ComponentLint.Proofs.DisabledRules
import Mathlib

/-!
Configuration files that cannot be used.

Most of what can be wrong with a file is reported. What is not is listed here: bytes that are not
text, texts over which their reader fails, values of the wrong type where nothing checks for one,
and whole numbers with too many digits where a text is made of them. All this is said of a file as
it is once its placeholders are filled in.
-/

namespace ComponentLint

/-! ### What is reported -/

/-- A step that gives a result or says what is wrong with the configuration. -/
inductive Handled {α : Type} : Except Fault α → Prop where
  | ok (a : α) : Handled (.ok a)
  | configuration (component reason : String) : Handled (.error (.configuration component reason))
  | validation (field constraint : String) (v : Value) :
      Handled (.error (.validation field constraint v))
  | notFound (kind id : String) : Handled (.error (.notFound kind id))

instance {α : Type} : (x : Except Fault α) → Decidable (Handled x)
  | .ok a => .isTrue (.ok a)
  | .error (.configuration component reason) => .isTrue (.configuration component reason)
  | .error (.validation field constraint v) => .isTrue (.validation field constraint v)
  | .error (.notFound kind id) => .isTrue (.notFound kind id)
  | .error (.malformedEntry _) | .error (.parse _) | .error (.general _)
  | .error (.duplicateRule _) | .error .emptyChildPath | .error (.crash _) => .isFalse nofun

/-- A step crashes for the listed causes, and is handled if there is none. -/
structure CrashesBy {α : Type} (causes : Crash → Prop) (x : Except Fault α) : Prop where
  crash : ∀ c, causes c → x = .error (.crash c)
  handled : (∀ c, ¬causes c) → Handled x

section Steps

variable {α β : Type} {x : Except Fault α} {f : α → Except Fault β} {causes : Crash → Prop}

lemma Handled.ite {p : Prop} [Decidable p] {y : Except Fault α} (hx : Handled x)
    (hy : Handled y) : Handled (if p then x else y) := by
  split
  · exact hx
  · exact hy

lemma Handled.bind (hx : Handled x) (hf : ∀ a, x = .ok a → Handled (f a)) : Handled (x >>= f) := by
  cases hx with
  | ok a => exact hf a rfl
  | configuration => exact .configuration ..
  | validation => exact .validation ..
  | notFound => exact .notFound ..

lemma Handled.isReported {e : Fault} (h : Handled (.error e : Except Fault α)) :
    e.isReported = true := by
  cases h <;> rfl

lemma not_handled_crash (c : Crash) : ¬Handled (.error (.crash c) : Except Fault α) := nofun

lemma crashesBy_crash {c : Crash} (h : ∀ c', causes c' ↔ c' = c) :
    CrashesBy causes (.error (.crash c) : Except Fault α) where
  crash := fun c' hc' => by rw [(h c').1 hc']
  handled := fun hnone => absurd ((h c).2 rfl) (hnone c)

lemma crashesBy_handled (hx : Handled x) (h : ∀ c, ¬causes c) : CrashesBy causes x where
  crash := fun c hc => absurd hc (h c)
  handled := fun _ => hx

lemma CrashesBy.congr {causes' : Crash → Prop} (hx : CrashesBy causes x)
    (h : ∀ c, causes' c ↔ causes c) : CrashesBy causes' x where
  crash := fun c hc => hx.crash c ((h c).1 hc)
  handled := fun hnone => hx.handled fun c hc => hnone c ((h c).2 hc)

lemma CrashesBy.crash_iff (h : CrashesBy causes x) (c : Crash) :
    x = .error (.crash c) ↔ causes c := by
  refine ⟨fun hx => ?_, h.crash c⟩
  by_contra hc
  have hsome : ∃ c', causes c' := by
    by_contra hnone
    push Not at hnone
    exact not_handled_crash c (hx ▸ h.handled hnone)
  obtain ⟨c', hc'⟩ := hsome
  cases (h.crash c' hc').symm.trans hx
  exact hc hc'

lemma CrashesBy.handled_iff (h : CrashesBy causes x) : Handled x ↔ ∀ c, ¬causes c := by
  refine ⟨fun hx c hc => ?_, h.handled⟩
  rw [h.crash c hc] at hx
  exact not_handled_crash c hx

/-- A step after another crashes where the first one does, and for its own causes where the first
one gives a result. -/
lemma CrashesBy.bind {causes' : α → Crash → Prop} (hx : CrashesBy causes x)
    (hf : ∀ a, x = .ok a → CrashesBy (causes' a) (f a)) :
    CrashesBy (fun c => causes c ∨ ∃ a, x = .ok a ∧ causes' a c) (x >>= f) where
  crash := by
    rintro c (hc | ⟨a, rfl, hc⟩)
    · rw [hx.crash c hc]
      rfl
    · exact (hf a rfl).crash c hc
  handled := by
    intro hnone
    have hhandled := hx.handled fun c hc => hnone c (Or.inl hc)
    exact hhandled.bind fun a ha => (hf a ha).handled fun c hc => hnone c (Or.inr ⟨a, ha, hc⟩)

/-- A step whose result is handled whatever it is. -/
lemma CrashesBy.bind_handled (hx : CrashesBy causes x) (hf : ∀ a, x = .ok a → Handled (f a)) :
    CrashesBy causes (x >>= f) where
  crash := by
    intro c hc
    rw [hx.crash c hc]
    rfl
  handled := fun hnone => (hx.handled hnone).bind hf

/-- One step after another, where both crash for one reason only. -/
lemma CrashesBy.bind_same {p q : Prop} {reason : Crash}
    (hx : CrashesBy (fun c => p ∧ c = reason) x)
    (hf : ∀ a, x = .ok a → CrashesBy (fun c => q ∧ c = reason) (f a)) :
    CrashesBy (fun c => (p ∨ (∃ a, x = .ok a) ∧ q) ∧ c = reason) (x >>= f) :=
  (hx.bind hf).congr fun c => by
    simp only [← and_assoc, ← exists_and_right, or_and_right]

end Steps

namespace Settings

/-! ### Values -/

/-- A mapping. -/
def isTable : Value → Bool
  | .map _ => true
  | _ => false

/-- What can be gone through for the ids of rules: a list, a mapping by its keys, a text. -/
def isIterable : Value → Bool
  | .list _ | .map _ | .str _ => true
  | _ => false

lemma isTable_iff {v : Value} : isTable v = true ↔ ∃ entries, v = .map entries := by
  cases v <;> simp [isTable]

/-- An entry of which no text can be made: there is a whole number with too many digits in it. -/
def IsUnwritable (key : String) (entries : List (Value × Value)) : Prop :=
  ∃ v ∈ Value.lookup key entries, v.isWritable = false

/-- An entry that is a flag or that is missing. -/
def IsFlag (key : String) (entries : List (Value × Value)) : Prop :=
  ∀ v ∈ Value.lookup key entries, ∃ b, flag key v = .ok b

/-- What in the section of the log brings the reader down. The flag for colours is read before the
one for times. -/
def BreaksLog (log : List (Value × Value)) : Prop :=
  IsUnwritable "level" log ∨ IsUnwritable "format" log ∨ IsUnwritable "use_color" log ∨
    IsFlag "use_color" log ∧ IsUnwritable "include_timestamp" log

/-- What else in the settings brings the reader down, by a number with too many digits. The ids of
the rules come last, and are shown if they are not all texts. -/
def BreaksNumber (env : Environment) (entries log : List (Value × Value)) (ids : List Value) :
    Prop :=
  IsUnwritable "follow_imports" entries ∨
    IsFlag "follow_imports" entries ∧
      (BreaksLog log ∨
        (∃ s, loggingOf env log = .ok s) ∧ ids.all isText = false ∧
          (Value.list ids).isWritable = false)

/-- What in filled-in settings brings the reader down: settings that are no table, and, unless the
section of the log is reported before, rules to disable that are a number, a flag, a date or null
and numbers with too many digits. A missing entry counts as empty. -/
inductive Breaks (env : Environment) : Value → Crash → Prop where
  | noTable {v : Value} (h : isTable v = false) : Breaks env v .noOperation
  | disable {entries log : List (Value × Value)}
      (hlog : getOr "logging" (.map []) entries = .map log)
      (h : isIterable (getOr "disable" (.list []) entries) = false) :
      Breaks env (.map entries) .wrongType
  | number {entries log : List (Value × Value)} {ids : List Value}
      (hlog : getOr "logging" (.map []) entries = .map log)
      (hids : items (getOr "disable" (.list []) entries) = .ok ids)
      (h : BreaksNumber env entries log ids) : Breaks env (.map entries) .badText

/-! ### Settings -/

lemma crashesBy_written (v : Value) :
    CrashesBy (fun c => v.isWritable = false ∧ c = .badText) v.written := by
  unfold Value.written
  cases h : v.isWritable with
  | false => exact crashesBy_crash fun c => by simp
  | true => exact crashesBy_handled (.ok _) fun c => by simp

lemma crashesBy_flag (field : String) (v : Value) :
    CrashesBy (fun c => v.isWritable = false ∧ c = .badText) (flag field v) := by
  unfold flag
  split
  · exact crashesBy_handled (.ok _) fun c => by simp [Value.isWritable]
  · refine (crashesBy_written v).bind_handled fun s _ => ?_
    dsimp only
    split_ifs
    · exact .ok _
    · exact .ok _
    · exact .configuration ..

section Entries

variable {key : String} {default : Value} {entries : List (Value × Value)}

lemma isWritable_getOr_iff (hdefault : default.isWritable = true) :
    (getOr key default entries).isWritable = false ↔ IsUnwritable key entries := by
  unfold getOr IsUnwritable
  cases Value.lookup key entries <;> simp [hdefault]

/-- The name of a flag stands in its message alone. -/
lemma flag_eq_ok_iff {field field' : String} {v : Value} {b : Bool} :
    flag field v = .ok b ↔ flag field' v = .ok b := by
  unfold flag
  split
  · rfl
  · cases v.written with
    | error f => simp only [bind, Except.bind]
    | ok s =>
      simp only [bind, Except.bind]
      split_ifs
      · rfl
      · rfl
      · exact iff_of_false nofun nofun

lemma exists_flag_getOr_iff {field : String} {b : Bool} :
    (∃ b', flag field (getOr key (.bool b) entries) = .ok b') ↔ IsFlag key entries := by
  simp only [getOr, IsFlag, @flag_eq_ok_iff field key]
  cases Value.lookup key entries with
  | none => simp [flag]
  | some v => simp

/-- A flag is read, and then a step that crashes for numbers as well. -/
lemma crashesBy_bind_flag {α : Type} {p : Prop} {f : Bool → Except Fault α} (field : String)
    {b : Bool} (hf : ∀ b', CrashesBy (fun c => p ∧ c = .badText) (f b')) :
    CrashesBy (fun c => (IsUnwritable key entries ∨ IsFlag key entries ∧ p) ∧ c = .badText)
      (flag field (getOr key (.bool b) entries) >>= f) := by
  refine ((crashesBy_flag field _).bind_same fun b' _ => hf b').congr fun c => ?_
  rw [isWritable_getOr_iff rfl, exists_flag_getOr_iff]

/-- A text is made, and then comes a step that crashes for numbers as well. -/
lemma crashesBy_bind_text {α : Type} {p : Prop} {f : String → Except Fault α}
    (hdefault : default.isWritable = true)
    (hf : ∀ s, CrashesBy (fun c => p ∧ c = .badText) (f s)) :
    CrashesBy (fun c => (IsUnwritable key entries ∨ p) ∧ c = .badText)
      ((getOr key default entries).written >>= f) := by
  refine ((crashesBy_written _).bind_same fun s _ => hf s).congr fun c => ?_
  rw [← isWritable_getOr_iff hdefault]
  unfold Value.written
  cases (getOr key default entries).isWritable <;> simp

end Entries

lemma handled_oneOf (field : String) (allowed : List String) (s : String) :
    Handled (LogSettings.oneOf field allowed (.str s)) :=
  .ite (.ok _) (.validation ..)

lemma crashesBy_loggingOf (env : Environment) (log : List (Value × Value)) :
    CrashesBy (fun c => BreaksLog log ∧ c = .badText) (loggingOf env log) := by
  unfold loggingOf
  refine (crashesBy_bind_text rfl fun levelText => crashesBy_bind_text rfl fun formatText =>
    crashesBy_bind_flag "logging.use_color" fun color =>
    crashesBy_bind_flag (p := False) "logging.include_timestamp" fun timestamp => ?_).congr
    fun c => by simp [BreaksLog]
  refine crashesBy_handled ?_ fun c => by simp
  unfold LogSettings.make
  exact (handled_oneOf ..).bind fun level _ => (handled_oneOf ..).bind fun format _ => Handled.ok _

lemma crashesBy_items (v : Value) :
    CrashesBy (fun c => isIterable v = false ∧ c = .wrongType) (items v) := by
  cases h : isIterable v with
  | false =>
    have hitems : items v = .error (.crash .wrongType) := by
      cases v <;> first | rfl | cases h
    rw [hitems]
    exact crashesBy_crash fun c => by simp
  | true =>
    refine crashesBy_handled ?_ fun c => by simp
    cases v <;> first | exact .ok _ | cases h

lemma crashesBy_make (ids : List Value) (policy : Value) (followImports : Bool)
    (logging : LogSettings) :
    CrashesBy (fun c => (ids.all isText = false ∧ (Value.list ids).isWritable = false) ∧
      c = .badText) (make (.list ids) policy followImports logging) := by
  have hids : CrashesBy (fun c => (ids.all isText = false ∧ (Value.list ids).isWritable = false) ∧
      c = .badText) (ruleIds (.list ids)) := by
    unfold ruleIds ruleIds.failed Fault.invalid
    dsimp only
    cases htexts : ids.all isText with
    | true => exact crashesBy_handled (.ok _) fun c => by simp
    | false =>
      cases hwritable : (Value.list ids).isWritable with
      | true => exact crashesBy_handled (.validation ..) fun c => by simp
      | false => exact crashesBy_crash fun c => by simp
  unfold make
  refine hids.bind_handled fun texts _ => ?_
  split
  · exact .ok _
  · exact .ite (.validation ..) (.ok _)

lemma breaks_noTable_iff {env : Environment} {v : Value} (hv : isTable v = false) (c : Crash) :
    Breaks env v c ↔ c = .noOperation := by
  refine ⟨fun hc => ?_, fun h => h ▸ .noTable hv⟩
  cases hc with
  | noTable => rfl
  | disable => cases hv
  | number => cases hv

lemma breaks_map_iff {env : Environment} {entries log : List (Value × Value)}
    (hlog : getOr "logging" (.map []) entries = .map log) (c : Crash) :
    Breaks env (.map entries) c ↔
      isIterable (getOr "disable" (.list []) entries) = false ∧ c = .wrongType ∨
      ∃ ids, items (getOr "disable" (.list []) entries) = .ok ids ∧
        BreaksNumber env entries log ids ∧ c = .badText := by
  constructor
  · intro hc
    cases hc with
    | noTable h => cases h
    | disable _ h => exact Or.inl ⟨h, rfl⟩
    | number hlog' hids h =>
      cases hlog.symm.trans hlog'
      exact Or.inr ⟨_, hids, h, rfl⟩
  · rintro (⟨h, rfl⟩ | ⟨ids, hids, h, rfl⟩)
    · exact .disable hlog h
    · exact .number hlog hids h

lemma crashesBy_ofEntries (env : Environment) (entries : List (Value × Value)) :
    CrashesBy (Breaks env (.map entries)) (ofEntries env entries) := by
  unfold ofEntries
  dsimp only
  split
  · next log hlog =>
    refine ((crashesBy_items _).bind fun ids _ => crashesBy_bind_flag "follow_imports"
      fun follow => (crashesBy_loggingOf env log).bind_same fun logging _ =>
      crashesBy_make ids _ follow logging).congr (breaks_map_iff hlog)
  · next hnone =>
    refine crashesBy_handled (.configuration ..) fun c hc => ?_
    cases hc with
    | noTable h => cases h
    | disable hlog => exact hnone _ hlog
    | number hlog => exact hnone _ hlog

/-- What is wrong with settings is reported, but for what is listed. -/
lemma crashesBy_ofValue (env : Environment) (v : Value) :
    CrashesBy (Breaks env (env.fill v)) (ofValue env v) := by
  unfold ofValue
  split
  · next entries hentries =>
    rw [hentries]
    exact crashesBy_ofEntries env entries
  · next hnone =>
    have htable : isTable (env.fill v) = false := by
      rw [← Bool.not_eq_true, isTable_iff]
      rintro ⟨entries, hentries⟩
      exact hnone entries hentries
    exact crashesBy_crash (breaks_noTable_iff htable)

/-! ### Files -/

/-- What in the top table of a project file, or of a file that holds nothing but settings, brings
the reader down. -/
inductive BreaksTable (env : Environment) (name : String) (entries : List (Value × Value)) :
    Crash → Prop where
  | tool {tool : Value} (htool : Value.lookup "tool" entries = some tool)
      (h : isIterable tool = false) : BreaksTable env name entries .wrongType
  | noSection {tool : Value} (htool : Value.lookup "tool" entries = some tool)
      (hsection : hasSection entries = .ok true) (h : isTable tool = false) :
      BreaksTable env name entries .wrongType
  | settings {tool : List (Value × Value)} {v : Value} {c : Crash}
      (htool : Value.lookup "tool" entries = some (.map tool))
      (hsection : Value.lookup sectionName tool = some v) (h : Breaks env (env.fill v) c) :
      BreaksTable env name entries c
  | document {c : Crash} (hsection : hasSection entries = .ok false) (hname : name ≠ projectFile)
      (h : Breaks env (env.fill (.map entries)) c) : BreaksTable env name entries c

/-- What in the value of a manifest brings the reader down: a kind that is not the right one and
cannot be shown, or the settings. -/
inductive BreaksSpec (env : Environment) : Value → Crash → Prop where
  | kind {entries : List (Value × Value)}
      (hkind : (Value.get "kind" entries).isString "Config" = false)
      (h : (Value.get "kind" entries).isWritable = false) : BreaksSpec env (.map entries) .badText
  | settings {entries spec : List (Value × Value)} {c : Crash}
      (hkind : (Value.get "kind" entries).isString "Config" = true)
      (hspec : Value.lookup "spec" entries = some (.map spec))
      (h : Breaks env (env.fill (.map spec)) c) : BreaksSpec env (.map entries) c

section Files

variable [DataFormats]

/-- What in a file of tables brings the reader down. -/
inductive BreaksToml (env : Environment) (name : String) (b : ByteArray) : Crash → Prop where
  | undecodable (h : String.fromUTF8? b = none) : BreaksToml env name b .undecodable
  | text {text : String} {c : Crash} (htext : String.fromUTF8? b = some text)
      (h : DataFormats.toml text = .error (.crash c)) : BreaksToml env name b c
  | table {text : String} {entries : List (Value × Value)} {c : Crash}
      (htext : String.fromUTF8? b = some text) (hread : DataFormats.toml text = .ok entries)
      (h : BreaksTable env name entries c) : BreaksToml env name b c

/-- What in a manifest brings the reader down. -/
inductive BreaksManifest (env : Environment) (b : ByteArray) : Crash → Prop where
  | text {c : Crash} (h : DataFormats.yamlFile b = .error (.crash c)) : BreaksManifest env b c
  | spec {v : Value} {c : Crash} (hread : DataFormats.yamlFile b = .ok v)
      (h : BreaksSpec env v c) : BreaksManifest env b c

/-- What in a file at a path brings the reader down. -/
inductive BreaksFile (env : Environment) (path : String) (b : ByteArray) : Crash → Prop where
  | manifest {c : Crash} (hsuffix : Path.suffix path ∈ manifestSuffixes)
      (h : BreaksManifest env b c) : BreaksFile env path b c
  | toml {c : Crash} (hsuffix : Path.suffix path ∉ manifestSuffixes)
      (h : BreaksToml env (Path.name path) b c) : BreaksFile env path b c

end Files

section Table

variable {env : Environment} {name : String} {entries : List (Value × Value)} {tool : Value}
  {c : Crash}

lemma hasSection_of_table {es : List (Value × Value)} {v : Value}
    (htool : Value.lookup "tool" entries = some (.map es))
    (hv : Value.lookup sectionName es = some v) : hasSection entries = .ok true := by
  rw [hasSection, htool]
  dsimp only
  rw [mentions, hv]
  rfl

lemma hasSection_of_not_iterable (htool : Value.lookup "tool" entries = some tool)
    (h : isIterable tool = false) : hasSection entries = .error (.crash .wrongType) := by
  rw [hasSection, htool]
  cases tool <;> first | rfl | cases h

lemma eq_of_hasSection_error {f : Fault} (h : hasSection entries = .error f) :
    f = .crash .wrongType ∧
      ∃ tool, Value.lookup "tool" entries = some tool ∧ isIterable tool = false := by
  unfold hasSection mentions at h
  split at h
  · cases h
  next tool htool =>
  split at h <;> cases h
  refine ⟨rfl, tool, htool, ?_⟩
  cases tool <;> simp_all [isIterable]

lemma exists_tool_of_hasSection (h : hasSection entries = .ok true) :
    ∃ tool, Value.lookup "tool" entries = some tool ∧
      ∀ es, tool = .map es → ∃ v, Value.lookup sectionName es = some v := by
  unfold hasSection at h
  split at h
  · cases h
  next tool htool =>
  refine ⟨tool, htool, ?_⟩
  rintro es rfl
  exact Option.isSome_iff_exists.1 (Except.ok.inj h)

lemma breaksTable_iff_of_tool (htool : Value.lookup "tool" entries = some tool)
    (h : isIterable tool = false) : BreaksTable env name entries c ↔ c = .wrongType := by
  have hcrash := hasSection_of_not_iterable htool h
  refine ⟨?_, fun hc => hc ▸ .tool htool h⟩
  rintro (_ | _ | ⟨htool', -, -⟩ | ⟨hsection, -, -⟩)
  · rfl
  · rfl
  · cases htool.symm.trans htool'
    cases h
  · cases hcrash.symm.trans hsection

lemma breaksTable_iff_of_noSection (htool : Value.lookup "tool" entries = some tool)
    (hsection : hasSection entries = .ok true) (h : isTable tool = false) :
    BreaksTable env name entries c ↔ c = .wrongType := by
  refine ⟨?_, fun hc => hc ▸ .noSection htool hsection h⟩
  rintro (_ | _ | ⟨htool', -, -⟩ | ⟨hsection', -, -⟩)
  · rfl
  · rfl
  · cases htool.symm.trans htool'
    cases h
  · cases hsection.symm.trans hsection'

lemma breaksTable_iff_of_settings {es : List (Value × Value)} {v : Value}
    (htool : Value.lookup "tool" entries = some (.map es))
    (hv : Value.lookup sectionName es = some v) :
    BreaksTable env name entries c ↔ Breaks env (env.fill v) c := by
  refine ⟨?_, .settings htool hv⟩
  rintro (⟨htool', h⟩ | ⟨htool', -, h⟩ | ⟨htool', hv', h⟩ | ⟨hsection, -, -⟩)
  · cases htool.symm.trans htool'
    cases h
  · cases htool.symm.trans htool'
    cases h
  · cases htool.symm.trans htool'
    cases hv.symm.trans hv'
    exact h
  · cases (hasSection_of_table htool hv).symm.trans hsection

lemma breaksTable_iff_of_document (hsection : hasSection entries = .ok false) :
    BreaksTable env name entries c ↔
      name ≠ projectFile ∧ Breaks env (env.fill (.map entries)) c := by
  refine ⟨?_, fun h => .document hsection h.1 h.2⟩
  rintro (⟨htool, h⟩ | ⟨-, hsection', -⟩ | ⟨htool, hv, -⟩ | ⟨-, hname, h⟩)
  · cases (hasSection_of_not_iterable htool h).symm.trans hsection
  · cases hsection.symm.trans hsection'
  · cases (hasSection_of_table htool hv).symm.trans hsection
  · exact ⟨hname, h⟩

end Table

/-- The settings of a document. -/
def ofTable (env : Environment) (name : String) (entries : List (Value × Value)) :
    Except Fault Settings := do
  if ← hasSection entries then ofValue env (← sectionOf (Value.get "tool" entries))
  else if name = projectFile then return {}
  else ofValue env (.map entries)

/-- The settings are the section, if there is one. -/
lemma crashesBy_ofTable_of_section (env : Environment) {name : String}
    {entries : List (Value × Value)} (hsection : hasSection entries = .ok true) :
    CrashesBy (BreaksTable env name entries)
      (sectionOf (Value.get "tool" entries) >>= fun v => ofValue env v) := by
  obtain ⟨tool, htool, hentry⟩ := exists_tool_of_hasSection hsection
  have hget : Value.get "tool" entries = tool := by rw [Value.get, htool]; rfl
  rw [hget]
  cases htable : isTable tool with
  | true =>
    obtain ⟨es, rfl⟩ := isTable_iff.1 htable
    obtain ⟨v, hv⟩ := hentry es rfl
    have hvalue : sectionOf (.map es) = .ok v := by
      rw [sectionOf, Value.get, hv]
      rfl
    rw [hvalue]
    exact (crashesBy_ofValue env v).congr fun c => breaksTable_iff_of_settings htool hv
  | false =>
    have hvalue : sectionOf tool = .error (.crash .wrongType) := by
      cases tool <;> first | rfl | cases htable
    rw [hvalue]
    exact crashesBy_crash fun c => breaksTable_iff_of_noSection htool hsection htable

/-- Without a section they are the whole document, but for a project file. -/
lemma crashesBy_ofTable_of_document (env : Environment) {name : String}
    {entries : List (Value × Value)} (hsection : hasSection entries = .ok false) :
    CrashesBy (BreaksTable env name entries)
      (if name = projectFile then .ok {} else ofValue env (.map entries)) := by
  split
  · next hname =>
    refine crashesBy_handled (.ok _) fun c h => ?_
    exact ((breaksTable_iff_of_document hsection).1 h).1 hname
  · next hname =>
    refine (crashesBy_ofValue env (.map entries)).congr fun c => ?_
    exact (breaksTable_iff_of_document hsection).trans (and_iff_right hname)

lemma crashesBy_ofTable (env : Environment) (name : String) (entries : List (Value × Value)) :
    CrashesBy (BreaksTable env name entries) (ofTable env name entries) := by
  unfold ofTable
  rcases hsection : hasSection entries with f | _ | _
  · obtain ⟨rfl, tool, htool, h⟩ := eq_of_hasSection_error hsection
    exact crashesBy_crash fun c => breaksTable_iff_of_tool htool h
  · exact crashesBy_ofTable_of_document env hsection
  · exact crashesBy_ofTable_of_section env hsection

lemma crashesBy_decoded (b : ByteArray) :
    CrashesBy (fun c => String.fromUTF8? b = none ∧ c = .undecodable) (decoded b) := by
  unfold decoded
  cases String.fromUTF8? b with
  | none => exact crashesBy_crash fun c => by simp
  | some text => exact crashesBy_handled (.ok _) fun c => by simp

lemma decoded_eq_ok_iff {b : ByteArray} {text : String} :
    decoded b = .ok text ↔ String.fromUTF8? b = some text := by
  unfold decoded
  cases String.fromUTF8? b <;> simp

section Files

variable [DataFormats]

lemma breaksToml_iff {env : Environment} {name : String} {b : ByteArray} (c : Crash) :
    BreaksToml env name b c ↔ String.fromUTF8? b = none ∧ c = .undecodable ∨
      ∃ text, decoded b = .ok text ∧ (DataFormats.toml text = .error (.crash c) ∨
        ∃ entries, DataFormats.toml text = .ok entries ∧ BreaksTable env name entries c) := by
  simp only [decoded_eq_ok_iff]
  constructor
  · rintro (h | ⟨htext, h⟩ | ⟨htext, hread, h⟩)
    · exact Or.inl ⟨h, rfl⟩
    · exact Or.inr ⟨_, htext, Or.inl h⟩
    · exact Or.inr ⟨_, htext, Or.inr ⟨_, hread, h⟩⟩
  · rintro (⟨h, rfl⟩ | ⟨text, htext, h | ⟨entries, hread, h⟩⟩)
    · exact .undecodable h
    · exact .text htext h
    · exact .table htext hread h

lemma crashesBy_ofToml (env : Environment) (name : String) (b : ByteArray) :
    CrashesBy (BreaksToml env name b) (ofToml env name b) := by
  unfold ofToml
  refine ((crashesBy_decoded b).bind fun text _ => ?_).congr breaksToml_iff
  rcases hread : DataFormats.toml text with failure | entries
  · cases failure with
    | invalid => exact crashesBy_handled (.configuration ..) fun c => by simp
    | crash cause => exact crashesBy_crash fun c => by simp [eq_comm]
  · exact (crashesBy_ofTable env name entries).congr fun c => by simp

end Files

/-! ### Manifests -/

lemma handled_ofValue_empty (env : Environment) : Handled (ofValue env (.map [])) := by
  refine (crashesBy_ofValue env (.map [])).handled ?_
  rintro c (h | ⟨-, h⟩ | ⟨hlog, hids, h⟩)
  · cases h
  · cases h
  · cases hlog
    cases hids
    simp [BreaksNumber, BreaksLog, IsUnwritable, Value.lookup, Environment.fillEntries] at h

lemma get_eq_map_iff {key : String} {entries m : List (Value × Value)} :
    Value.get key entries = .map m ↔ Value.lookup key entries = some (.map m) := by
  unfold Value.get
  cases Value.lookup key entries <;> simp

lemma breaksSpec_iff_of_kind {env : Environment} {entries : List (Value × Value)} (c : Crash)
    (hkind : (Value.get "kind" entries).isString "Config" = false) :
    BreaksSpec env (.map entries) c ↔
      (Value.get "kind" entries).isWritable = false ∧ c = .badText := by
  constructor
  · rintro (⟨-, h⟩ | ⟨hkind', -, -⟩)
    · exact ⟨h, rfl⟩
    · cases hkind.symm.trans hkind'
  · rintro ⟨h, rfl⟩
    exact .kind hkind h

lemma breaksSpec_iff_of_config {env : Environment} {entries : List (Value × Value)} (c : Crash)
    (hkind : (Value.get "kind" entries).isString "Config" = true) :
    BreaksSpec env (.map entries) c ↔
      ∃ spec, Value.get "spec" entries = .map spec ∧ Breaks env (env.fill (.map spec)) c := by
  constructor
  · rintro (⟨hkind', -⟩ | ⟨-, hspec, h⟩)
    · cases hkind.symm.trans hkind'
    · exact ⟨_, get_eq_map_iff.2 hspec, h⟩
  · rintro ⟨spec, hspec, h⟩
    exact .settings hkind (get_eq_map_iff.1 hspec) h

lemma crashesBy_ofManifest (env : Environment) (name : String) (v : Value) :
    CrashesBy (BreaksSpec env v) (ofManifest env name v) := by
  unfold ofManifest
  split
  swap
  · next hnone =>
    refine crashesBy_handled (.configuration ..) ?_
    rintro c (_ | _)
    · exact hnone _ rfl
    · exact hnone _ rfl
  next entries =>
  dsimp only
  cases hkind : (Value.get "kind" entries).isString "Config" with
  | false =>
    rw [if_pos (by simp)]
    refine ((crashesBy_written _).bind_handled fun s _ => ?_).congr
      fun c => breaksSpec_iff_of_kind c hkind
    exact .configuration ..
  | true =>
    rw [if_neg (by simp)]
    have hbreaks (c : Crash) : BreaksSpec env (.map entries) c ↔ _ :=
      breaksSpec_iff_of_config c hkind
    split
    · next spec hspec =>
      exact (crashesBy_ofValue env (.map spec)).congr fun c => by simp [hbreaks, hspec]
    · next hnone =>
      have hfine : ∀ c, ¬BreaksSpec env (.map entries) c := by
        intro c hc
        obtain ⟨spec, hspec, -⟩ := (hbreaks c).1 hc
        exact hnone spec hspec
      split_ifs
      · exact crashesBy_handled (.configuration ..) hfine
      · exact crashesBy_handled (handled_ofValue_empty env) hfine

section Loading

variable [DataFormats]

lemma crashesBy_ofYaml (env : Environment) (name : String) (b : ByteArray) :
    CrashesBy (BreaksManifest env b) (ofYaml env name b) := by
  have hbreaks (c : Crash) : BreaksManifest env b c ↔
      DataFormats.yamlFile b = .error (.crash c) ∨
        ∃ v, DataFormats.yamlFile b = .ok v ∧ BreaksSpec env v c := by
    constructor
    · rintro (h | ⟨hread, h⟩)
      · exact Or.inl h
      · exact Or.inr ⟨_, hread, h⟩
    · rintro (h | ⟨v, hread, h⟩)
      · exact .text h
      · exact .spec hread h
  unfold ofYaml
  rcases hread : DataFormats.yamlFile b with failure | v
  · cases failure with
    | invalid => exact crashesBy_handled (.configuration ..) fun c => by simp [hbreaks, hread]
    | crash cause => exact crashesBy_crash fun c => by simp [hbreaks, hread, eq_comm]
  · exact (crashesBy_ofManifest env name v).congr fun c => by simp [hbreaks, hread]

/-! ### Loading -/

lemma crashesBy_read {w : Workspace} (env : Environment) {path : String} {b : ByteArray}
    (hbytes : w.bytes path = .ok b) : CrashesBy (BreaksFile env path b) (read w env path) := by
  have hread : read w env path =
      if Path.suffix path ∈ manifestSuffixes then ofYaml env (Path.name path) b
      else ofToml env (Path.name path) b := by
    rw [read, hbytes]
    simp only [bind, Except.bind, List.contains_iff_mem]
  rw [hread]
  by_cases hsuffix : Path.suffix path ∈ manifestSuffixes
  · rw [if_pos hsuffix]
    refine (crashesBy_ofYaml env (Path.name path) b).congr fun c => ⟨?_, .manifest hsuffix⟩
    rintro (⟨-, h⟩ | ⟨hnone, -⟩)
    · exact h
    · exact absurd hsuffix hnone
  · rw [if_neg hsuffix]
    refine (crashesBy_ofToml env (Path.name path) b).congr fun c => ⟨?_, .toml hsuffix⟩
    rintro (⟨hsome, -⟩ | ⟨-, h⟩)
    · exact absurd hsome hsuffix
    · exact h

/-- The absolute path of a file, under which its settings are kept. -/
def keyOf (w : Workspace) (path : String) : String := Path.absolute w.path (Path.reduce path)

lemma load_eq {w : Workspace} {path : String} (hpath : path ≠ "")
    (hexists : w.exists? (Path.reduce path) = true) (env : Environment) (cache : Cache) :
    (load w env cache (some path)).result = (loadAt w env cache (Path.reduce path)).1 := by
  have hfind : find w env (some path) = ([], .ok (some (Path.reduce path))) := by
    rw [find, Option.filter_some, if_pos (decide_eq_true hpath)]
    dsimp only
    rw [if_pos hexists]
  rw [load, hfind]
  dsimp only
  rw [loadFile, hfind]

lemma crashesBy_load {w : Workspace} {path : String} (hpath : path ≠ "")
    (hexists : w.exists? (Path.reduce path) = true) {b : ByteArray}
    (hbytes : w.bytes (keyOf w path) = .ok b) (env : Environment)
    {cache : Cache} (hcache : cache.lookup (keyOf w path) = none) :
    CrashesBy (BreaksFile env (keyOf w path) b)
      (load w env cache (some path)).result := by
  have hread := crashesBy_read env hbytes
  have hkey : cache.lookup (Path.absolute w.path (Path.reduce path)) = none := hcache
  rw [load_eq hpath hexists, loadAt, hkey]
  dsimp only
  rw [keyOf] at hread
  cases h : read w env (Path.absolute w.path (Path.reduce path)) <;> rwa [h] at hread

end Loading

end Settings

/-! ### Commands -/

/-- What is relied on of the console: a title in a style that has a name, and after it a text in
which no bracket is taken for a tag, can be printed. -/
def Console.ShowsEscaped [Console] : Prop :=
  ∀ style title text : String, style ≠ "" → (∀ c ∈ style.toList, c.isLower) →
    (∀ c ∈ title.toList, c.isAlpha ∨ c = ' ' ∨ c = ':') →
    Renders (styled style title ++ " " ++ escape text)

namespace Command

section

variable [Console]

lemma report_reported (hconsole : Console.ShowsEscaped) {f : Fault} (h : f.isReported = true) :
    (report "Configuration error" f).exitCode = 2 ∧
      (report "Configuration error" f).crash = none := by
  obtain ⟨s, hs⟩ := hconsole "red" ("Configuration error" ++ ":") f.message (by simp)
    (by simp) (by simp)
  rw [report, if_pos h, print, hs]
  exact ⟨rfl, rfl⟩

lemma report_crash (c : Crash) :
    (report "Configuration error" (.crash c)).exitCode = 1 ∧
      (report "Configuration error" (.crash c)).crash = some (.crash c) := ⟨rfl, rfl⟩

variable [DataFormats] [Pattern.Engine] [Script.Language] {σ : Type} [Log.Library σ]

lemma lint_eq_report {env : Environment} {l : Log σ} {a : Arguments}
    (hformat : a.format ∈ outputFormats) {f : Fault}
    (hload : (Settings.load (Log.Library.files l.library) env [] a.config).result = .error f) :
    lint env l a = report "Configuration error" f := by
  have hprepare : prepare env l a = .error f := by
    rw [prepare, hload]
    rfl
  simp only [lint, List.contains_iff_mem.2 hformat, Bool.not_true, Bool.false_eq_true, if_false,
    hprepare]

end

end Command

/-- **Which configuration files bring the loader down.** Whatever the environment and the readers,
loading a file that exists, and has not been loaded before, ends in a crash for the causes that its
bytes give, and where they give none it gives settings or says what is wrong with the configuration.
A command that is to use the file ends with status 1 and the crash in the first case, and with
status 2 and a message in the second, if it gets no settings. -/
theorem load_crashes_iff [DataFormats] {w : Workspace} {path : String} (hpath : path ≠ "")
    (hexists : w.exists? (Path.reduce path) = true) {b : ByteArray}
    (hbytes : w.bytes (Settings.keyOf w path) = .ok b) (env : Environment) :
    (∀ cache : Settings.Cache, cache.lookup (Settings.keyOf w path) = none →
      (∀ c, (Settings.load w env cache (some path)).result = .error (.crash c) ↔
        Settings.BreaksFile env (Settings.keyOf w path) b c) ∧
      (Handled (Settings.load w env cache (some path)).result ↔
        ∀ c, ¬Settings.BreaksFile env (Settings.keyOf w path) b c)) ∧
    ∀ [Console] [Pattern.Engine] [Script.Language] {σ : Type} [Log.Library σ] (l : Log σ)
      (a : Command.Arguments), Log.Library.files l.library = w →
      a.format ∈ Command.outputFormats → a.config = some path →
      (∀ c, Settings.BreaksFile env (Settings.keyOf w path) b c →
        (Command.lint env l a).exitCode = 1 ∧ (Command.lint env l a).crash = some (.crash c)) ∧
      (Console.ShowsEscaped → (∀ c, ¬Settings.BreaksFile env (Settings.keyOf w path) b c) →
        ∀ f, (Settings.load w env [] (some path)).result = .error f →
          (Command.lint env l a).exitCode = 2 ∧ (Command.lint env l a).crash = none) := by
  refine ⟨fun cache hcache => ?_, ?_⟩
  · have hload := Settings.crashesBy_load hpath hexists hbytes env hcache
    exact ⟨hload.crash_iff, hload.handled_iff⟩
  intro _ _ _ σ _ l a hfiles hformat hconfig
  have hnew : ([] : Settings.Cache).lookup (Settings.keyOf w path) = none := List.lookup_nil
  have hload := Settings.crashesBy_load hpath hexists hbytes env hnew
  have hlint : ∀ f, (Settings.load w env [] (some path)).result = .error f →
      Command.lint env l a = Command.report "Configuration error" f := by
    intro f hf
    rw [← hfiles, ← hconfig] at hf
    exact Command.lint_eq_report hformat hf
  refine ⟨fun c hc => ?_, fun hconsole hnone f hf => ?_⟩
  · rw [hlint (.crash c) (hload.crash c hc)]
    exact Command.report_crash c
  · have hhandled := hload.handled hnone
    rw [hf] at hhandled
    rw [hlint f hf]
    exact Command.report_reported hconsole hhandled.isReported

/-! ### Rules to disable that are a number -/

/-- Readers that know some texts of tables. -/
abbrev DataFormats.ofTables (texts : List (String × List (Value × Value))) : DataFormats where
  toml text := ReadFailure.ofOption (texts.lookup text)
  yaml _ := .error .invalid
  yamlFile _ := .error .invalid

/-- A file whose rules to disable are a number. -/
def numberedRules : Workspace where
  store :=
    { files := [(["p.toml"], "disable = 5\n".toUTF8), (["a.html"], ByteArray.empty)]
      directories := [[]] }
  directory := []

/-- Readers that know the file. -/
abbrev numberedTables : DataFormats := .ofTables [("disable = 5\n", [(.str "disable", .int 5)])]

lemma bytes_numberedRules :
    numberedRules.bytes (Settings.keyOf numberedRules "p.toml") = .ok "disable = 5\n".toUTF8 := by
  have hcontent : (numberedRules.locate (Settings.keyOf numberedRules "p.toml")).bind
      numberedRules.store.contentAt? = some "disable = 5\n".toUTF8 := by
    decide +kernel
  rw [Workspace.bytes, hcontent]

theorem breaksFile_numberedRules :
    letI := numberedTables
    numberedRules.exists? (Path.reduce "p.toml") = true ∧
    numberedRules.bytes (Settings.keyOf numberedRules "p.toml") = .ok "disable = 5\n".toUTF8 ∧
    ∃ c, Settings.BreaksFile [] (Settings.keyOf numberedRules "p.toml")
      "disable = 5\n".toUTF8 c := by
  let _ := numberedTables
  have hexists : numberedRules.exists? (Path.reduce "p.toml") = true := by decide +kernel
  have hnew : ([] : Settings.Cache).lookup (Settings.keyOf numberedRules "p.toml") = none :=
    List.lookup_nil
  have hcrash : ¬Handled (Settings.load numberedRules [] [] (some "p.toml")).result := by
    decide +kernel
  have hload := (load_crashes_iff (by decide) hexists bytes_numberedRules []).1 [] hnew
  refine ⟨hexists, bytes_numberedRules, ?_⟩
  by_contra hnone
  push Not at hnone
  exact hcrash (hload.2.2 hnone)

theorem lint_numberedRules : letI := boldConsole; letI := numberedTables
    letI := Pattern.Engine.ofTexts []; letI := evalGrammar
    letI := Log.Library.ofFiles numberedRules
    ¬Handled (Settings.load numberedRules [] [] (some "p.toml")).result ∧
    (Command.lint [] ({ library := () } : Log Unit)
      { files := ["a.html"], config := some "p.toml" }).exitCode = 1 ∧
    (Command.lint [] ({ library := () } : Log Unit)
      { files := ["a.html"], config := some "p.toml" }).crash.isSome := by
  decide +kernel

end ComponentLint
