import ComponentLint.Log
import Mathlib

/-!
The handlers after a sequence of calls, some of which fail.

The handlers that were installed from here are what the last call that was carried out has left,
and the configuration that is remembered is that of the last call that succeeded. The two come
apart when a call fails. A later call with the remembered configuration returns at once, and it
finds what the failed call has left. All this rests on a few properties of the package that keeps
the handlers.
-/

namespace ComponentLint.Log

/-! ### The package -/

/-- What is known of the package that keeps the handlers. Adding a handler appends it under a new
number or installs nothing, which is so for a level that does not exist; a handler is taken away by
its number, and a number without a handler is refused. Adding and making a directory may fail for
other reasons too. -/
structure Library.Lawful (σ : Type) [Library σ] : Prop where
  add_ok {h : Handler} {lib lib' : σ} {number : ℕ} (hadd : add h lib = (lib', .ok number)) :
    installed lib' = installed lib ++ [(number, h)] ∧ ∀ e ∈ installed lib, e.1 ≠ number
  add_error {h : Handler} {lib lib' : σ} {f : Fault} (hadd : add h lib = (lib', .error f)) :
    installed lib' = installed lib
  add_unknown {h : Handler} (hlevel : isLevel σ h.level = false) (lib : σ) :
    (add h lib).2 = .error (.crash .badText)
  remove_known {number : ℕ} {lib : σ} (hknown : ∃ e ∈ installed lib, e.1 = number) :
    ∃ lib', remove number lib = (lib', .ok ()) ∧
      installed lib' = (installed lib).filter (·.1 != number)
  remove_unknown {number : ℕ} {lib : σ} (hunknown : ∀ e ∈ installed lib, e.1 ≠ number) :
    ∃ lib', remove number lib = (lib', .error (.crash .badText)) ∧ installed lib' = installed lib
  makeDirectory (path : String) (lib : σ) :
    installed (makeDirectory path lib).1 = installed lib

/-! ### What settings ask for -/

/-- The handler for the log file, if there is to be one. -/
def fileHandlers (c : LogConfiguration) : List Handler :=
  (c.outputFile.map (fileHandler c.level)).toList

/-- The handlers that a configuration asks for. -/
def asked (terminal : Bool) (c : LogConfiguration) : List Handler :=
  consoleHandler terminal c :: fileHandlers c

lemma fileHandlers_eq_nil {c : LogConfiguration} : fileHandlers c = [] ↔ c.outputFile = none := by
  unfold fileHandlers
  cases c.outputFile <;> simp

lemma consoleHandler_level (terminal : Bool) (c : LogConfiguration) :
    (consoleHandler terminal c).level = c.level := by
  unfold consoleHandler
  split <;> rfl

lemma fileHandlers_of_not_truthy {s : LogSettings} {c : LogConfiguration}
    (h : ¬s.outputFile.isTruthy) (hc : s.configuration = .ok c) : fileHandlers c = [] := by
  rw [LogSettings.configuration, if_neg h] at hc
  cases hc
  rfl

lemma fileHandlers_of_path {s : LogSettings} {c : LogConfiguration} {path : String}
    (hpath : s.outputFile = .str path) (htruthy : s.outputFile.isTruthy)
    (hc : s.configuration = .ok c) : fileHandlers c = [fileHandler s.level path] := by
  rw [LogSettings.configuration, if_pos htruthy, hpath] at hc
  cases hc
  rfl

section

variable {σ : Type} [Library σ] {l l' l'' : Log σ} {hs hs' : List Handler}

/-! ### Installing -/

/-- The handlers that were not installed from here. -/
def others (l : Log σ) : List (ℕ × Handler) :=
  (Library.installed l.library).filter fun e => !l.own.contains e.1

/-- A step from one state to another installs handlers, and changes no other. -/
structure Installs (hs : List Handler) (l l' : Log σ) : Prop where
  handlers : l'.handlers = l.handlers ++ hs
  others : l'.others = l.others
  configuration : l'.configuration = l.configuration

lemma Installs.trans (h : Installs hs l l') (h' : Installs hs' l' l'') :
    Installs (hs ++ hs') l l'' where
  handlers := by rw [h'.handlers, h.handlers, List.append_assoc]
  others := h'.others.trans h.others
  configuration := h'.configuration.trans h.configuration

/-- A change of the package that leaves its handlers alone. -/
lemma installs_nothing (l : Log σ) {lib : σ}
    (h : Library.installed lib = Library.installed l.library) :
    Installs [] l { l with library := lib } where
  handlers := by rw [List.append_nil, Log.handlers, h, Log.handlers]
  others := by rw [Log.others, h, Log.others]
  configuration := rfl

/-- A step installs handlers, or fails and installs none. -/
def InstallsOrFails (hs : List Handler) (l : Log σ) (r : Log σ × Except Fault Unit) : Prop :=
  r.2 = .ok () ∧ Installs hs l r.1 ∨ (∃ f, r.2 = .error f) ∧ Installs [] l r.1

lemma InstallsOrFails.of_installs_nothing {r : Log σ × Except Fault Unit} (h : Installs [] l l')
    (hr : InstallsOrFails hs l' r) : InstallsOrFails hs l r :=
  hr.imp (fun ⟨hok, hinstalls⟩ => ⟨hok, h.trans hinstalls⟩)
    fun ⟨hfail, hinstalls⟩ => ⟨hfail, h.trans hinstalls⟩

lemma InstallsOrFails.of_ok (h : InstallsOrFails hs l (l', .ok ())) : Installs hs l l' := by
  obtain ⟨-, hinstalls⟩ | ⟨⟨f, hf⟩, -⟩ := h
  · exact hinstalls
  · cases hf

lemma InstallsOrFails.of_error {f : Fault} (h : InstallsOrFails hs l (l', .error f)) :
    Installs [] l l' := by
  obtain ⟨hok, -⟩ | ⟨-, hinstalls⟩ := h
  · cases hok
  · exact hinstalls

section

variable (hlib : Library.Lawful σ)

include hlib

lemma installs_add {h : Handler} {lib : σ} {number : ℕ}
    (hadd : Library.add h l.library = (lib, .ok number)) :
    Installs [h] l { l with library := lib, own := l.own ++ [number] } := by
  obtain ⟨happend, hnew⟩ := hlib.add_ok hadd
  have hown : ∀ e ∈ Library.installed l.library,
      (l.own ++ [number]).contains e.1 = l.own.contains e.1 := by
    intro e he
    simp [hnew e he]
  refine ⟨?_, ?_, rfl⟩
  · simp only [handlers, happend, List.filter_append, List.filter_congr hown]
    simp
  · have hothers : ∀ e ∈ Library.installed l.library,
        (!(l.own ++ [number]).contains e.1) = !l.own.contains e.1 := fun e he => by rw [hown e he]
    simp only [others, happend, List.filter_append, List.filter_congr hothers]
    simp

lemma installs_install (h : Handler) (l : Log σ) : InstallsOrFails [h] l (install h l) := by
  unfold install
  rcases hadd : Library.add h l.library with ⟨lib, f | number⟩
  · exact Or.inr ⟨⟨_, rfl⟩, installs_nothing l (hlib.add_error hadd)⟩
  · exact Or.inl ⟨rfl, installs_add hlib hadd⟩

/-- A log file gets a handler, or its directory or the file cannot be made. -/
lemma installs_addFile_of_path {s : LogSettings} {path : String} (hpath : s.outputFile = .str path)
    (htruthy : s.outputFile.isTruthy) (l : Log σ) :
    InstallsOrFails [fileHandler s.level path] l (addFile s l) := by
  have hkept := hlib.makeDirectory path l.library
  unfold addFile
  rw [if_neg (by simpa using htruthy), hpath]
  dsimp only
  rcases hmake : Library.makeDirectory path l.library with ⟨lib, f | _⟩
  · rw [hmake] at hkept
    exact Or.inr ⟨⟨_, rfl⟩, installs_nothing l hkept⟩
  · rw [hmake] at hkept
    exact (installs_install hlib _ _).of_installs_nothing (installs_nothing l hkept)

/-- Adding the log file installs the handler for it, or fails and installs none. -/
lemma installs_addFile {s : LogSettings} {c : LogConfiguration} (hc : s.configuration = .ok c)
    (l : Log σ) : InstallsOrFails (fileHandlers c) l (addFile s l) := by
  by_cases htruthy : s.outputFile.isTruthy
  swap
  · rw [fileHandlers_of_not_truthy htruthy hc, addFile, if_pos (by simpa using htruthy)]
    exact Or.inl ⟨rfl, installs_nothing l rfl⟩
  by_cases hpath : ∃ path, s.outputFile = .str path
  · obtain ⟨path, hpath⟩ := hpath
    rw [fileHandlers_of_path hpath htruthy hc]
    exact installs_addFile_of_path hlib hpath htruthy l
  · -- a value that is no path
    have herror : addFile s l = (l, .error (.crash .wrongType)) := by
      unfold addFile
      rw [if_neg (by simpa using htruthy)]
      split
      · next path heq => exact absurd ⟨path, heq⟩ hpath
      · rfl
    rw [herror]
    exact Or.inr ⟨⟨_, rfl⟩, installs_nothing l rfl⟩

end

/-! ### One call -/

/-- The handlers of others, but for the one from the start when nothing is configured yet. -/
def othersKept (l : Log σ) : List (ℕ × Handler) :=
  if l.configuration.isNone then l.others.filter (·.1 != 0) else l.others

/-- Whether a configuration gets its handler on the console once the log is cleared. -/
def comesToConsole (c : LogConfiguration) (l : Log σ) : Bool :=
  (andThen (install (consoleHandler (Library.isTerminal σ) c)) l.clear).2.isOk

/-- A call that is carried out: its configuration, whether it succeeds, and whether it comes to
the handler on the console. -/
structure Attempt where
  configuration : LogConfiguration
  succeeded : Bool
  console : Bool

/-- The handlers that an attempt leaves. -/
def Attempt.handlers (terminal : Bool) (a : Attempt) : List Handler :=
  if a.succeeded then asked terminal a.configuration
  else if a.console then [consoleHandler terminal a.configuration] else []

/-- What an attempt does. -/
structure Leaves (a : Attempt) (l l' : Log σ) : Prop where
  handlers : l'.handlers = a.handlers (Library.isTerminal σ)
  others : l'.others = l.othersKept
  configuration : l'.configuration = if a.succeeded then some a.configuration else l.configuration

/-- An attempt that has cleared the log and then installed handlers. -/
lemma Leaves.of_installs {lib : σ} (hkept : Library.installed lib = l.othersKept) {a : Attempt}
    (h : Installs hs { l with library := lib, own := [] } l')
    (hhandlers : a.handlers (Library.isTerminal σ) = hs) :
    Leaves a l { l' with
      configuration := if a.succeeded then some a.configuration else l'.configuration } where
  handlers := by
    refine h.handlers.trans ?_
    rw [hhandlers]
    simp [Log.handlers]
  others := by
    refine h.others.trans ?_
    simp [Log.others, hkept]
  configuration := by
    dsimp only
    rw [h.configuration]

/-- What a failed attempt leaves is asked for by a configuration without a log file that writes to
the console in the same way. -/
lemma Attempt.handlers_eq_asked {terminal : Bool} {a : Attempt} (ha : a.succeeded = false)
    {c : LogConfiguration} :
    a.handlers terminal = asked terminal c ↔
      a.console = true ∧
        consoleHandler terminal a.configuration = consoleHandler terminal c ∧
          c.outputFile = none := by
  unfold Attempt.handlers asked
  rw [ha, ← fileHandlers_eq_nil]
  cases a.console with
  | false => simp
  | true => simp [@eq_comm _ []]

/-- A call that succeeds comes to the handler on the console. -/
lemma comesToConsole_of_reconfigure {s : LogSettings} {c : LogConfiguration}
    (h : (reconfigure c s l).2 = .ok ()) : l.comesToConsole c = true := by
  unfold reconfigure at h
  unfold comesToConsole
  rcases hr : andThen (install (consoleHandler (Library.isTerminal σ) c)) l.clear with ⟨l₁, f | _⟩
  · rw [hr] at h
    cases h
  · rfl

lemma configure_cases (force : Bool) (s : LogSettings) (l : Log σ) :
    (∃ f, s.configuration = .error f ∧ l.configure force s = (l, .error f)) ∨
    ∃ c, s.configuration = .ok c ∧
      (l.configuration = some c ∧ l.configure force s = (l, .ok false) ∨
        l.configure force s =
          ((reconfigure c s l).1, (reconfigure c s l).2.map fun _ => true)) := by
  unfold configure
  rcases s.configuration with f | c
  · exact Or.inl ⟨f, rfl, rfl⟩
  refine Or.inr ⟨c, rfl, ?_⟩
  by_cases hsame : !force ∧ l.configuration = some c
  · exact Or.inl ⟨hsame.2, if_pos hsame⟩
  · exact Or.inr (if_neg hsame)

section

variable (hlib : Library.Lawful σ)

include hlib

/-- Taking away numbers passes over those without a handler. -/
lemma exists_discard_eq (numbers : List ℕ) (lib : σ) :
    ∃ lib', discard numbers lib = (lib', .ok ()) ∧
      Library.installed lib' =
        (Library.installed lib).filter fun e => !numbers.contains e.1 := by
  induction numbers generalizing lib with
  | nil => exact ⟨lib, rfl, by simp⟩
  | cons number numbers ih =>
    by_cases hknown : ∃ e ∈ Library.installed lib, e.1 = number
    · obtain ⟨lib₁, hremove, hinstalled⟩ := hlib.remove_known hknown
      obtain ⟨lib₂, hdiscard, hrest⟩ := ih lib₁
      refine ⟨lib₂, by simp [discard, hremove, hdiscard], ?_⟩
      rw [hrest, hinstalled, List.filter_filter]
      simp only [List.contains_cons, Bool.not_or, bne, Bool.and_comm]
    · push Not at hknown
      obtain ⟨lib₁, hremove, hinstalled⟩ := hlib.remove_unknown hknown
      obtain ⟨lib₂, hdiscard, hrest⟩ := ih lib₁
      refine ⟨lib₂, by simp [discard, hremove, isBadValue, hdiscard], ?_⟩
      rw [hrest, hinstalled]
      refine List.filter_congr fun e he => ?_
      simp [hknown e he]

/-- Clearing the log takes away what was installed from here. -/
lemma exists_clear_eq (l : Log σ) :
    ∃ lib, l.clear = ({ l with library := lib, own := [] }, .ok ()) ∧
      Library.installed lib = l.othersKept := by
  obtain ⟨lib, hdiscard, hinstalled⟩ :=
    exists_discard_eq hlib ((if l.configuration.isNone then [0] else []) ++ l.own) l.library
  refine ⟨lib, by simp only [clear, hdiscard], hinstalled.trans ?_⟩
  unfold othersKept others
  split_ifs
  · rw [List.filter_filter]
    simp only [List.singleton_append, List.contains_cons, Bool.not_or, bne]
  · rfl

/-- An attempt takes what was installed from here away, and leaves its own handlers. -/
lemma leaves_reconfigure {s : LogSettings} {c : LogConfiguration} (hc : s.configuration = .ok c)
    (l : Log σ) :
    ((reconfigure c s l).2 = .ok () ∧
      Leaves ⟨c, true, l.comesToConsole c⟩ l (reconfigure c s l).1) ∨
    ((∃ f, (reconfigure c s l).2 = .error f) ∧
      Leaves ⟨c, false, l.comesToConsole c⟩ l (reconfigure c s l).1) := by
  obtain ⟨lib, hclear, hkept⟩ := exists_clear_eq hlib l
  have hconsole := installs_install hlib (consoleHandler (Library.isTerminal σ) c)
    { l with library := lib, own := [] }
  unfold reconfigure comesToConsole
  rw [hclear, andThen]
  rcases hr : install (consoleHandler (Library.isTerminal σ) c)
    { l with library := lib, own := [] } with ⟨l₁, f | _⟩
  · -- no handler at all
    rw [hr] at hconsole
    exact Or.inr ⟨⟨f, rfl⟩, .of_installs hkept hconsole.of_error rfl⟩
  rw [hr] at hconsole
  have hadds := installs_addFile hlib hc l₁
  rcases hfile : addFile s l₁ with ⟨l₂, f | _⟩
  · -- the handler on the console only
    rw [hfile] at hadds
    simp only [andThen, hfile]
    exact Or.inr ⟨⟨f, rfl⟩, .of_installs hkept (hconsole.of_ok.trans hadds.of_error) rfl⟩
  · rw [hfile] at hadds
    have hleaves := Leaves.of_installs (a := ⟨c, true, true⟩) hkept
      (hconsole.of_ok.trans hadds.of_ok) rfl
    simp only [andThen, hfile]
    exact Or.inl ⟨trivial, hleaves⟩

/-- A level that does not exist is found out at the handler on the console. -/
lemma comesToConsole_of_unknown {c : LogConfiguration}
    (hlevel : Library.isLevel σ c.level = false) (l : Log σ) : l.comesToConsole c = false := by
  obtain ⟨lib, hclear, -⟩ := exists_clear_eq hlib l
  have hadd := hlib.add_unknown (h := consoleHandler (Library.isTerminal σ) c)
    (by rwa [consoleHandler_level]) lib
  unfold comesToConsole
  rw [hclear, andThen, install]
  dsimp only
  rcases hr : Library.add (consoleHandler (Library.isTerminal σ) c) lib with ⟨lib', f | number⟩
  · rfl
  · rw [hr] at hadd
    cases hadd

end

/-! ### Sequences of calls -/

/-- A call to configure the log. -/
structure Call where
  force : Bool
  settings : LogSettings

/-- The last attempt once a call has given its result. A call without a configuration, or with the
one that is remembered, is none. -/
def lastAttempt (state : Log σ × Option Attempt) (c : Call) (result : Except Fault Bool) :
    Option Attempt :=
  match c.settings.configuration, result with
  | .error _, _ => state.2
  | .ok _, .ok false => state.2
  | .ok configuration, result =>
    some ⟨configuration, result.isOk, state.1.comesToConsole configuration⟩

/-- Makes a call, and notes it as the last attempt if it is carried out. -/
def step (state : Log σ × Option Attempt) (c : Call) : Log σ × Option Attempt :=
  let (l, result) := state.1.configure c.force c.settings
  (l, lastAttempt state c result)

/-- Makes calls one after the other. -/
def run (start : Log σ) (calls : List Call) : Log σ × Option Attempt :=
  calls.foldl step (start, none)

/-- The log before the first call; there may be handlers of others. -/
structure Fresh (l : Log σ) : Prop where
  configuration : l.configuration = none
  own : l.own = []

/-- What a sequence of calls leaves, by the last attempt in it. -/
structure Follows (start l : Log σ) (last : Option Attempt) : Prop where
  untouched : last = none → l = start
  handlers : ∀ a ∈ last, l.handlers = a.handlers (Library.isTerminal σ)
  others : ∀ a ∈ last, l.others = start.others.filter (·.1 != 0)
  configuration : ∀ a ∈ last, a.succeeded → l.configuration = some a.configuration
  unknown : ∀ a ∈ last, Library.isLevel σ a.configuration.level = false →
    a.succeeded = false ∧ a.console = false

variable {start : Log σ} {last : Option Attempt}

lemma Follows.othersKept (hstart : Fresh start) (h : Follows start l last) :
    l.othersKept = start.others.filter (·.1 != 0) := by
  unfold Log.othersKept
  cases last with
  | none =>
    obtain rfl := h.untouched rfl
    rw [hstart.configuration]
    rfl
  | some a =>
    rw [h.others a rfl]
    split_ifs
    · simp
    · rfl

/-- An attempt is followed by what it leaves, whatever there was before. -/
lemma Follows.attempt (hstart : Fresh start) (h : Follows start l last) {a : Attempt}
    (ha : Leaves a l l')
    (hunknown : Library.isLevel σ a.configuration.level = false →
      a.succeeded = false ∧ a.console = false) : Follows start l' (some a) where
  untouched := nofun
  handlers := by
    rintro _ ⟨⟩
    exact ha.handlers
  others := by
    rintro _ ⟨⟩
    rw [ha.others, h.othersKept hstart]
  configuration := by
    rintro _ ⟨⟩ hsucceeded
    rw [ha.configuration, if_pos hsucceeded]
  unknown := by
    rintro _ ⟨⟩
    exact hunknown

/-- Where a configuration is remembered there has been an attempt, and that decides whether the
handlers are those it asks for. -/
lemma Follows.exists_handlers_iff (hstart : Fresh start) (h : Follows start l last)
    {c : LogConfiguration} (hsame : l.configuration = some c) :
    ∃ a, last = some a ∧ (l.handlers = asked (Library.isTerminal σ) c ↔
      a.succeeded = true ∨ a.console = true ∧
        consoleHandler (Library.isTerminal σ) a.configuration =
          consoleHandler (Library.isTerminal σ) c ∧ c.outputFile = none) := by
  cases hlast : last with
  | none =>
    rw [h.untouched hlast, hstart.configuration] at hsame
    cases hsame
  | some a =>
    refine ⟨a, rfl, ?_⟩
    rw [h.handlers a hlast]
    cases hsucceeded : a.succeeded with
    | true =>
      have heq := Option.some.inj ((h.configuration a hlast hsucceeded).symm.trans hsame)
      simp [Attempt.handlers, hsucceeded, heq]
    | false =>
      rw [Attempt.handlers_eq_asked hsucceeded]
      simp

section

variable (hlib : Library.Lawful σ)

include hlib

lemma Follows.reconfigure (hstart : Fresh start) (h : Follows start l last) {s : LogSettings}
    {c : LogConfiguration} (hc : s.configuration = .ok c) :
    Follows start (reconfigure c s l).1
      (some ⟨c, (reconfigure c s l).2.isOk, l.comesToConsole c⟩) := by
  have hunknown := comesToConsole_of_unknown hlib (c := c) (l := l)
  rcases leaves_reconfigure hlib hc l with ⟨hok, ha⟩ | ⟨⟨f, hf⟩, ha⟩
  · have hconsole := comesToConsole_of_reconfigure hok
    rw [hok]
    refine h.attempt hstart ha fun hlevel => ?_
    rw [hunknown hlevel] at hconsole
    cases hconsole
  · rw [hf]
    exact h.attempt hstart ha fun hlevel => ⟨rfl, hunknown hlevel⟩

lemma Follows.step (hstart : Fresh start) (h : Follows start l last) (c : Call) :
    Follows start (Log.step (l, last) c).1 (Log.step (l, last) c).2 := by
  unfold Log.step lastAttempt
  rcases configure_cases c.force c.settings l with
    ⟨f, hc, hcall⟩ | ⟨configuration, hc, ⟨-, hcall⟩ | hcall⟩
  · rw [hcall, hc]
    exact h
  · rw [hcall, hc]
    exact h
  · have hdone := h.reconfigure hlib hstart hc
    rw [hcall, hc]
    rcases hr : (Log.reconfigure configuration c.settings l).2 with f | _
    · rw [hr] at hdone
      exact hdone
    · rw [hr] at hdone
      exact hdone

lemma follows_run (hstart : Fresh start) (calls : List Call) :
    Follows start (run start calls).1 (run start calls).2 := by
  have hfold : ∀ state : Log σ × Option Attempt, Follows start state.1 state.2 →
      Follows start (calls.foldl step state).1 (calls.foldl step state).2 := by
    induction calls with
    | nil => exact fun _ h => h
    | cons c calls ih => exact fun state h => ih _ (h.step hlib hstart c)
  exact hfold _ ⟨fun _ => rfl, nofun, nofun, nofun, nofun⟩

/-- **The handlers after a call that returns.** They are those that its settings ask for exactly
if it was carried out, or the last attempt before it succeeded, or that one failed only over a log
file, when the call asks for none and for the same on the console. The handlers of others stay,
but for the one from the start. An attempt with a level that does not exist leaves no handler. -/
theorem handlers_asked_iff (hstart : Fresh start) (calls : List Call) (c : Call) {changed : Bool}
    (hcall : (run start calls).1.configure c.force c.settings = (l, .ok changed)) :
    ∃ configuration, c.settings.configuration = .ok configuration ∧
      (l.handlers = asked (Library.isTerminal σ) configuration ↔
        changed = true ∨ ∃ a ∈ (run start calls).2, a.succeeded = true ∨
          a.console = true ∧
            consoleHandler (Library.isTerminal σ) a.configuration =
              consoleHandler (Library.isTerminal σ) configuration ∧
            configuration.outputFile = none) ∧
      l.others = start.others.filter (·.1 != 0) ∧
      ∀ a ∈ (run start calls).2, Library.isLevel σ a.configuration.level = false →
        a.succeeded = false ∧ a.console = false := by
  have hbefore := follows_run hlib hstart calls
  rcases configure_cases c.force c.settings (run start calls).1 with
    ⟨f, -, hfail⟩ | ⟨configuration, hc, ⟨hsame, hkept⟩ | hdone⟩
  · rw [hfail] at hcall
    cases hcall
  · rw [hkept] at hcall
    cases hcall
    obtain ⟨a, hlast, hiff⟩ := hbefore.exists_handlers_iff hstart hsame
    refine ⟨configuration, hc, ?_, hbefore.others a hlast, hbefore.unknown⟩
    rw [hiff, hlast]
    simp
  · refine ⟨configuration, hc, ?_⟩
    have hafter := hbefore.reconfigure hlib hstart hc
    rcases hr : (Log.reconfigure configuration c.settings (run start calls).1).2 with f | _
    · rw [hdone, hr] at hcall
      cases hcall
    · rw [hdone, hr] at hcall
      rw [hr] at hafter
      cases hcall
      exact ⟨iff_of_true (hafter.handlers _ rfl) (Or.inl rfl), hafter.others _ rfl,
        hbefore.unknown⟩

end

end

/-! ### A call with an unknown level -/

/-- The handlers of a package that keeps them in a list and gives numbers in order. -/
structure Shelf where
  installed : List (ℕ × Handler)
  next : ℕ
  numbered : ∀ e ∈ installed, e.1 < next

namespace Shelf

def add (h : Handler) (shelf : Shelf) : Shelf where
  installed := shelf.installed ++ [(shelf.next, h)]
  next := shelf.next + 1
  numbered := by
    intro e he
    rcases List.mem_append.1 he with he | he
    · exact (shelf.numbered e he).trans (Nat.lt_succ_self _)
    · rw [List.mem_singleton.1 he]
      exact Nat.lt_succ_self _

def remove (number : ℕ) (shelf : Shelf) : Shelf where
  installed := shelf.installed.filter (·.1 != number)
  next := shelf.next
  numbered := fun e he => shelf.numbered e (List.mem_of_mem_filter he)

/-- What a program starts with: the package's own handler. -/
def start : Shelf where
  installed := [(0, ⟨.standardError, "DEBUG", .structured true true⟩)]
  next := 1
  numbered := by simp

end Shelf

/-- The package with some levels, in which every directory can be made. -/
abbrev Library.ofLevels (levels : List String) : Library Shelf where
  installed := Shelf.installed
  add h shelf :=
    if levels.contains h.level then (shelf.add h, .ok shelf.next)
    else (shelf, .error (.crash .badText))
  remove number shelf :=
    if shelf.installed.any (·.1 == number) then (shelf.remove number, .ok ())
    else (shelf, .error (.crash .badText))
  makeDirectory _ shelf := (shelf, .ok ())
  files _ := ⟨{}, []⟩
  isLevel := levels.contains
  isTerminal := false

lemma Library.lawful_ofLevels (levels : List String) :
    letI := Library.ofLevels levels
    Library.Lawful Shelf := by
  let _ := Library.ofLevels levels
  refine ⟨?_, ?_, ?_, ?_, ?_, fun _ _ => rfl⟩
  · intro h shelf shelf' number hadd
    simp only [Library.add] at hadd
    split_ifs at hadd <;> cases hadd
    exact ⟨rfl, fun e he => (shelf.numbered e he).ne⟩
  · intro h shelf shelf' f hadd
    simp only [Library.add] at hadd
    split_ifs at hadd <;> cases hadd
    rfl
  · intro h hlevel shelf
    simp only [Library.add]
    rw [if_neg (by simpa [Library.isLevel] using hlevel)]
  · rintro number shelf ⟨e, he, hnumber⟩
    have hany : shelf.installed.any (·.1 == number) = true :=
      List.any_eq_true.2 ⟨e, he, beq_iff_eq.2 hnumber⟩
    exact ⟨shelf.remove number, if_pos hany, rfl⟩
  · intro number shelf hunknown
    have hany : ¬shelf.installed.any (·.1 == number) = true := by
      simp only [List.any_eq_true, beq_iff_eq, not_exists, not_and]
      exact hunknown
    exact ⟨shelf, if_neg hany, rfl⟩

/-- The log of a program that has made no call yet. -/
def fresh : Log Shelf := { library := .start }

/-- The default settings, and then a level that does not exist. -/
def misspelled : List Call := [⟨false, {}⟩, ⟨false, { level := "LOUD" }⟩]

/-- After a call that failed, a call for the settings before it returns and leaves no handler. -/
theorem configure_after_misspelled :
    letI := Library.ofLevels ["DEBUG", "INFO", "WARNING", "ERROR"]
    Library.Lawful Shelf ∧ Fresh fresh ∧
    ((run fresh misspelled).1.configure false {}).2.toOption = some false ∧
    ((run fresh misspelled).1.configure false {}).1.handlers = [] ∧
    asked false ⟨"WARNING", "structured", none, true, true⟩ =
      [⟨.standardError, "WARNING", .structured true false⟩] := by
  let _ := Library.ofLevels ["DEBUG", "INFO", "WARNING", "ERROR"]
  exact ⟨Library.lawful_ofLevels _, ⟨rfl, rfl⟩, by decide, by decide, by decide⟩

/-- A forced call installs them again. -/
theorem forced_after_misspelled :
    letI := Library.ofLevels ["DEBUG", "INFO", "WARNING", "ERROR"]
    Library.Lawful Shelf ∧ Fresh fresh ∧
    ((run fresh misspelled).1.configure true {}).2 = .ok true ∧
    ((run fresh misspelled).1.configure true {}).1.handlers =
      asked false ⟨"WARNING", "structured", none, true, true⟩ := by
  let _ := Library.ofLevels ["DEBUG", "INFO", "WARNING", "ERROR"]
  have hok : ((run fresh misspelled).1.configure true {}).2 = .ok true := rfl
  have hfresh : Fresh fresh := ⟨rfl, rfl⟩
  refine ⟨Library.lawful_ofLevels _, hfresh, hok, ?_⟩
  obtain ⟨configuration, hc, hasked, -⟩ := handlers_asked_iff (Library.lawful_ofLevels _) hfresh
    misspelled ⟨true, {}⟩ (Prod.ext rfl hok)
  cases hc
  exact hasked.2 (Or.inl rfl)

end ComponentLint.Log
