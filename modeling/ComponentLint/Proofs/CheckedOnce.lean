import ComponentLint.Proofs.DisabledRules
import ComponentLint.Proofs.ImportOrder
import ComponentLint.Proofs.PlainFindings
import Mathlib

/-!
Which scripts a run checks against its policy.

A run goes by paths: it checks what an input loads under a path unless an earlier input has loaded
something under the same path. A script stands in a file or in an element of a document, and as
long as paths and these go together, each script that any input loads is checked once, whichever
inputs and documents lead to it.
-/

namespace ComponentLint

open Analysis (content? document? gather ofEntry putScript script? scriptContent scriptsOf
  toOption_eq_some)
open Conformance (bind_eq_ok pathFindings plainLint)
open Markup (Document Place)

/-! ### What an input loads -/

/-- Where a script stands: in a file, by the parts of its absolute path, and there in one of the
script elements unless it is the whole file. -/
structure Origin where
  file : Option (List String)
  element : Option ℕ := none
  deriving DecidableEq

/-- A script with its origin and the path that it is loaded under. -/
structure Load where
  key : String
  script : Script
  origin : Origin

/-- A script under its path, without its origin. -/
def Load.entry (l : Load) : String × Script := (l.key, l.script)

/-- The file that a normalized path leads to. -/
def Workspace.fileNamed? (w : Workspace) (path : String) : Option (List String) :=
  (w.store.files.find? fun f => (Workspace.namesOf w.directory f.1).contains path).map (·.1)

/-- An element that names the file of its script. -/
def hasSource (element : Place) : Bool :=
  ((element.attributeValue? "src").filter (· ≠ "")).isSome

/-- Of the scripts that inputs load in turn, those under paths that no input before has scripts
under. -/
def firsts (seen : List String) : List (List Load) → List Load
  | [] => []
  | loads :: rest =>
    loads.filter (fun l => l.key ∉ seen) ++ firsts (seen ++ loads.map (·.key)) rest

/-- Paths and scripts go together. -/
structure Unambiguous (loaded : List (List Load)) : Prop where
  /-- No input loads a script file twice. -/
  once : ∀ loads ∈ loaded,
    loads.Pairwise fun l l' => l.origin.element = none → l.origin ≠ l'.origin
  /-- A script is always loaded under the same path. -/
  spelled : ∀ l ∈ loaded.flatten, ∀ l' ∈ loaded.flatten, l.origin = l'.origin → l.key = l'.key
  /-- Nothing else is loaded under the path of a script file. -/
  own : ∀ l ∈ loaded.flatten, ∀ l' ∈ loaded.flatten, l.key = l'.key →
    l.origin.element = none → l.origin = l'.origin

instance : DecidablePred Unambiguous := fun _ =>
  decidable_of_iff (_ ∧ _ ∧ _)
    ⟨fun h => ⟨h.1, h.2.1, h.2.2⟩, fun h => ⟨h.once, h.spelled, h.own⟩⟩

variable {w : Workspace} {follow : Bool} {path document : String} {l l' : Load}
  {loads : List Load} {loaded : List (List Load)} {policy : Policy}

/-! ### Files and their paths -/

lemma lookup_map_pair (names : List String) (b : ByteArray) (path : String) :
    (names.map (·, b)).lookup path = if names.contains path then some b else none := by
  induction names with
  | nil => rfl
  | cons name names ih =>
    rw [List.map_cons, List.lookup_cons, ih, List.contains_cons]
    cases path == name <;> simp

lemma content?_named (w : Workspace) (path : String) : content? w.named path =
    (w.store.files.find? fun f => (Workspace.namesOf w.directory f.1).contains path).map
      (·.2) := by
  rw [content?, Workspace.named]
  induction w.store.files with
  | nil => rfl
  | cons f files ih =>
    rw [List.flatMap_cons, List.lookup_append, ih, lookup_map_pair, List.find?_cons]
    cases (Workspace.namesOf w.directory f.1).contains path <;> simp

/-- The first file that a path leads to is the first of that file's absolute path. -/
lemma find?_key_of_find?_name {directory : List String} {files : List (List String × ByteArray)}
    {f : List String × ByteArray}
    (h : (files.find? fun f => (Workspace.namesOf directory f.1).contains path) = some f) :
    files.find? (·.1 == f.1) = some f := by
  induction files with
  | nil => cases h
  | cons g files ih =>
    cases hg : (Workspace.namesOf directory g.1).contains path with
    | true =>
      rw [List.find?_cons, hg] at h
      cases h
      exact List.find?_cons_of_pos (by simp)
    | false =>
      rw [List.find?_cons, hg] at h
      have hne : (g.1 == f.1) = false := by
        rw [beq_eq_false_iff_ne]
        intro heq
        rw [heq, List.find?_some h] at hg
        cases hg
      rw [List.find?_cons, hne]
      exact ih h

/-- What a normalized path leads to is the content of one file. -/
lemma fileNamed?_of_content? {b : ByteArray} (h : content? w.named path = some b) :
    ∃ key, w.fileNamed? path = some key ∧ w.store.contentAt? key = some b := by
  rw [content?_named] at h
  obtain ⟨f, hf, rfl⟩ := Option.map_eq_some_iff.1 h
  refine ⟨f.1, by rw [Workspace.fileNamed?, hf]; rfl, ?_⟩
  rw [Store.contentAt?, find?_key_of_find?_name hf]
  rfl

/-! ### Files and elements -/

lemma hasSource_of_file {files : Files} {element : Place} {b : ByteArray}
    (h : scriptContent files document element = .file path b) : hasSource element = true := by
  unfold scriptContent Analysis.inlineContent at h
  grind [hasSource]

lemma hasSource_of_text {files : Files} {element : Place} {text : String} {start : Location}
    (h : scriptContent files document element = .text text start) :
    hasSource element = false := by
  unfold scriptContent Analysis.inlineContent at h
  grind [hasSource]

lemma readText_eq_ok {kind text : String} (h : w.readText kind path = .ok text) :
    ∃ key b, w.locate (Path.reduce path) = some key ∧ w.store.contentAt? key = some b ∧
      Workspace.decode? b = some text := by
  unfold Workspace.readText at h
  split at h
  · cases h
  · rename_i b hb
    obtain ⟨key, hkey, hb⟩ := Option.bind_eq_some_iff.1 hb
    refine ⟨key, b, hkey, hb, ?_⟩
    split at h <;> simp_all

/-! ### Scripts by path -/

section

variable {entries : List (String × Script)} {found : List (String × List Script)}

lemma mem_keys_putScript {k key : String} {s : Script} :
    k ∈ (putScript key s found).map (·.1) ↔ k ∈ found.map (·.1) ∨ k = key := by
  fun_induction putScript key s found <;> grind

lemma mem_keys_gather {k : String} : k ∈ (gather entries found).map (·.1) ↔
    k ∈ found.map (·.1) ∨ k ∈ entries.map (·.1) := by
  induction entries generalizing found with
  | nil => simp [gather]
  | cons e entries ih =>
    refine ih.trans ?_
    rw [mem_keys_putScript, List.map_cons, List.mem_cons, or_assoc]

end

/-! ### Inputs in turn -/

lemma mem_flatten_of_mem_firsts {seen : List String} (h : l ∈ firsts seen loaded) :
    l ∈ loaded.flatten := by
  induction loaded generalizing seen with
  | nil => cases h
  | cons loads rest ih =>
    rw [List.flatten_cons]
    exact List.mem_append.2 ((List.mem_append.1 h).imp List.mem_of_mem_filter ih)

/-- Of the inputs that load something under a path, all that the first loads there is checked. -/
lemma exists_first {seen : List String} (h : l ∈ loaded.flatten) (hnew : l.key ∉ seen) :
    ∃ loads ∈ loaded, (∃ l' ∈ loads, l'.key = l.key) ∧
      ∀ l' ∈ loads, l'.key = l.key → l' ∈ firsts seen loaded := by
  induction loaded generalizing seen with
  | nil => cases h
  | cons loads rest ih =>
    by_cases hhere : ∃ l' ∈ loads, l'.key = l.key
    · refine ⟨loads, List.mem_cons_self, hhere, fun l' hl' hkey => ?_⟩
      exact List.mem_append_left _ (List.mem_filter.2 ⟨hl', by simpa [hkey] using hnew⟩)
    · have hrest : l ∈ rest.flatten := by
        rw [List.flatten_cons] at h
        exact (List.mem_append.1 h).resolve_left fun hl => hhere ⟨l, hl, rfl⟩
      have hnew' : l.key ∉ seen ++ loads.map (·.key) := by
        simp only [List.mem_append, List.mem_map, not_or]
        exact ⟨hnew, hhere⟩
      obtain ⟨first, hfirst, hsome, hall⟩ := ih hrest hnew'
      exact ⟨first, List.mem_cons_of_mem _ hfirst, hsome,
        fun l' hl' hkey => List.mem_append_right _ (hall l' hl' hkey)⟩

lemma key_not_mem_of_mem_firsts {seen : List String} (h : l ∈ firsts seen loaded) :
    l.key ∉ seen := by
  induction loaded generalizing seen with
  | nil => cases h
  | cons loads rest ih =>
    rcases List.mem_append.1 h with hl | hl
    · simpa using (List.mem_filter.1 hl).2
    · exact fun hmem => ih hl (List.mem_append_left _ hmem)

/-- Scripts of different inputs that are checked have different paths, so what holds within each
input and for different paths holds of all that are checked. -/
lemma firsts_pairwise {R : Load → Load → Prop} {seen : List String}
    (hinputs : ∀ loads ∈ loaded, loads.Pairwise R)
    (hkeys : ∀ l ∈ loaded.flatten, ∀ l' ∈ loaded.flatten, l.key ≠ l'.key → R l l') :
    (firsts seen loaded).Pairwise R := by
  induction loaded generalizing seen with
  | nil => exact .nil
  | cons loads rest ih =>
    obtain ⟨hhead, htail⟩ := List.forall_mem_cons.1 hinputs
    simp only [List.flatten_cons, List.forall_mem_append] at hkeys
    refine List.pairwise_append.2 ⟨hhead.filter _, ih htail fun l hl => (hkeys.2 l hl).2, ?_⟩
    intro l hl l' hl'
    have hmem : l ∈ loads := List.mem_of_mem_filter hl
    refine (hkeys.1 l hmem).2 l' (mem_flatten_of_mem_firsts hl') fun hsame => ?_
    refine key_not_mem_of_mem_firsts hl' (List.mem_append_right _ ?_)
    exact hsame ▸ List.mem_map_of_mem hmem

/-! ### What a run has recorded -/

namespace Task

variable {seen : List String} {found : List Diagnostic} {p : Progress}

/-- The loads of an input as the policy sees them: by path, without those that have been checked. -/
def fresh (checked : List String) (loads : List Load) : List (String × List Script) :=
  (gather (loads.map Load.entry) []).filter fun e => !checked.contains e.1

/-- The paths and the findings that a run has recorded. -/
structure Records (seen : List String) (found : List Diagnostic) (p : Progress) : Prop where
  checked : ∀ key, key ∈ p.checked ↔ key ∈ seen
  found : (p.report.byRule Conformance.ruleId).Perm found

lemma Records.fresh_keys (h : Records seen found p) (loads : List Load) (key : String) :
    key ∈ p.checked ++ (fresh p.checked loads).map (·.1) ↔ key ∈ seen ++ loads.map (·.key) := by
  have hfresh : key ∈ (fresh p.checked loads).map (·.1) ↔
      key ∈ (gather (loads.map Load.entry) []).map (·.1) ∧ key ∉ p.checked := by
    simp [fresh]
  rw [List.mem_append, hfresh, mem_keys_gather, h.checked, List.mem_append, List.map_map]
  simp only [List.map_nil, List.not_mem_nil, false_or]
  tauto

end Task

/-! ### Loads and their origins -/

/-- Two loads that are not of the same element. -/
def Load.Apart (l l' : Load) : Prop :=
  l.key = l'.key → l.origin.element = l'.origin.element → l.origin.element = none

section

variable [Script.Language]

/-- The script that is the text of a file. -/
def fileScript (path text : String) : Script :=
  { root := Script.Language.parse text, text := text, source := some path }

/-- The script of an element, which comes with its number among the script elements. -/
def load? (w : Workspace) (document : String) (e : Place × ℕ) : Option Load :=
  (script? w.named document e.1).map fun s =>
    { key := s.1
      script := s.2
      origin := { file := w.fileNamed? s.1, element := if hasSource e.1 then none else e.2 } }

def loadsOf (w : Workspace) (d : Document) : List Load :=
  ((Place.root d).walkAll (Place.hasTag "script")).zipIdx.filterMap (load? w d.href)

/-- The scripts that an input loads, if it can be loaded. -/
def loads? (w : Workspace) (follow : Bool) (path : String) : Option (List Load) :=
  if Task.scriptSuffixes.contains (Path.suffix path) then
    (w.readText "script" path).toOption.map fun text =>
      [{ key := path
         script := fileScript path text
         origin := { file := w.locate (Path.reduce path) } }]
  else
    (ofEntry w.named follow path).toOption.map fun a => a.documents.flatMap (loadsOf w)

/-- The findings of a policy in one script. -/
def Load.findings (policy : Policy) (l : Load) : List Diagnostic :=
  pathFindings policy l.key [l.script]

/-- A load of a whole file. -/
def Load.FromFile (w : Workspace) (l : Load) : Prop :=
  ∃ key b text, l.origin = { file := some key } ∧ w.store.contentAt? key = some b ∧
    Workspace.decode? b = some text ∧ l.script = fileScript l.key text

lemma Load.FromFile.element (h : l.FromFile w) : l.origin.element = none := by
  obtain ⟨key, b, text, horigin, -⟩ := h
  rw [horigin]

/-- A file is loaded in one way under one path. -/
lemma Load.FromFile.eq (h : l.FromFile w) (h' : l'.FromFile w) (hkey : l.key = l'.key)
    (horigin : l.origin = l'.origin) : l = l' := by
  obtain ⟨file, b, text, hfile, hb, htext, hscript⟩ := h
  obtain ⟨file', b', text', hfile', hb', htext', hscript'⟩ := h'
  have hfiles : file = file' := by simpa [hfile, hfile'] using horigin
  subst hfiles
  cases hb.symm.trans hb'
  cases htext.symm.trans htext'
  have hscripts : l.script = l'.script := by rw [hscript, hscript', hkey]
  cases l
  cases l'
  simp_all

/-- An element loads the file it names, or stands for the text in it. -/
lemma load?_cases {e : Place × ℕ} (h : load? w document e = some l) :
    l.FromFile w ∨ l.key = document ∧ l.origin.element = some e.2 := by
  obtain ⟨⟨key, script⟩, hscript, rfl⟩ := Option.map_eq_some_iff.1 h
  unfold script? at hscript
  split at hscript
  · cases hscript
  · cases hscript
  · rename_i path b hcontent
    obtain ⟨text, htext, hpair⟩ := Option.map_eq_some_iff.1 hscript
    cases hpair
    obtain ⟨file, hfile, hb⟩ :=
      fileNamed?_of_content? (Analysis.content?_of_scriptContent hcontent)
    refine Or.inl ⟨file, b, text, ?_, hb, htext, rfl⟩
    simp [hfile, hasSource_of_file hcontent]
  · rename_i text start hcontent
    cases hscript
    exact Or.inr ⟨rfl, by simp [hasSource_of_text hcontent]⟩

/-- The scripts of a document under their paths. -/
lemma map_loadsOf (w : Workspace) (d : Document) :
    (loadsOf w d).map Load.entry = scriptsOf w.named d := by
  have hload (e : Place × ℕ) :
      (load? w d.href e).map Load.entry = script? w.named d.href e.1 := by
    simp [load?, Load.entry, Function.comp_def]
  calc (loadsOf w d).map Load.entry
      = ((Place.root d).walkAll (Place.hasTag "script")).zipIdx.filterMap
          (fun e => script? w.named d.href e.1) := by
        rw [loadsOf, List.map_filterMap, List.filterMap_congr fun e _ => hload e]
    _ = (((Place.root d).walkAll (Place.hasTag "script")).zipIdx.map (·.1)).filterMap
          (script? w.named d.href) := by rw [List.filterMap_map, Function.comp_def]
    _ = scriptsOf w.named d := by rw [List.zipIdx_map_fst, scriptsOf]

lemma mem_loadsOf {d : Document} (h : l ∈ loadsOf w d) :
    l.FromFile w ∨ l.key = d.href ∧ l.origin.element.isSome := by
  obtain ⟨e, -, he⟩ := List.mem_filterMap.1 h
  exact (load?_cases he).imp_right fun ⟨hkey, helement⟩ => ⟨hkey, by rw [helement]; rfl⟩

lemma loadsOf_apart (w : Workspace) (d : Document) : (loadsOf w d).Pairwise Load.Apart := by
  have hnumbers : ((Place.root d).walkAll (Place.hasTag "script")).zipIdx.Pairwise
      (fun e e' => e.2 ≠ e'.2) := by
    rw [← List.pairwise_map, List.zipIdx_map_snd]
    exact List.nodup_range'
  refine hnumbers.filterMap _ ?_
  intro e e' hne l hl l' hl' _ hsame
  rcases load?_cases hl with hfile | ⟨-, helement⟩
  · exact hfile.element
  · rcases load?_cases hl' with hfile' | ⟨-, helement'⟩
    · rw [hsame, hfile'.element]
    · rw [helement, helement'] at hsame
      exact absurd (Option.some.inj hsame) hne

/-- What there is to say about the loads of one input. -/
structure Sound (w : Workspace) (loads : List Load) : Prop where
  /-- An element is loaded once. -/
  apart : loads.Pairwise Load.Apart
  /-- With an element of a document, all its script elements are loaded. -/
  whole : ∀ l ∈ loads, l.FromFile w ∨ l.origin.element.isSome ∧
    ∃ d, document? w.named l.key = some d ∧ l ∈ loadsOf w d ∧ loadsOf w d ⊆ loads

lemma sound_of_documents {ds : List Document} (hnodup : (ds.map (·.href)).Nodup)
    (hds : ∀ d ∈ ds, document? w.named d.href = some d) : Sound w (ds.flatMap (loadsOf w)) where
  apart := by
    refine List.pairwise_flatMap.2 ⟨fun d _ => loadsOf_apart w d, ?_⟩
    refine (List.pairwise_map.1 hnodup).imp fun {d d'} hne l hl l' hl' hkey hsame => ?_
    rcases mem_loadsOf hl with hfile | ⟨hhref, -⟩
    · exact hfile.element
    · rcases mem_loadsOf hl' with hfile' | ⟨hhref', -⟩
      · rw [hsame, hfile'.element]
      · exact absurd (hhref.symm.trans (hkey.trans hhref')) hne
  whole := by
    intro l hl
    obtain ⟨d, hd, hl⟩ := List.mem_flatMap.1 hl
    refine (mem_loadsOf hl).imp_right fun ⟨hhref, helement⟩ => ⟨helement, d, ?_, hl, ?_⟩
    · rw [hhref]
      exact hds d hd
    · exact fun l' hl' => List.mem_flatMap.2 ⟨d, hd, hl'⟩

lemma sound_of_loads? (hgrammar : Script.Language.FallsOnBoundaries)
    (h : loads? w follow path = some loads) : Sound w loads := by
  unfold loads? at h
  split_ifs at h
  · obtain ⟨text, htext, rfl⟩ := Option.map_eq_some_iff.1 h
    obtain ⟨key, b, hkey, hb, hdecode⟩ := readText_eq_ok (toOption_eq_some.1 htext)
    refine ⟨List.pairwise_singleton .., fun l hl => Or.inl ?_⟩
    obtain rfl := List.mem_singleton.1 hl
    exact ⟨key, b, text, by rw [hkey], hb, hdecode, rfl⟩
  · obtain ⟨a, ha, rfl⟩ := Option.map_eq_some_iff.1 h
    obtain ⟨order, hnodup, hholds⟩ := Analysis.ofEntry_holds hgrammar (toOption_eq_some.1 ha)
    exact sound_of_documents (hholds.hrefs ▸ hnodup) hholds.documents

/-! ### Scripts under their paths -/

section Gathered

variable {entries : List (String × Script)} {found : List (String × List Script)}

lemma pathFindings_append (policy : Policy) (path : String) (ss ts : List Script) :
    pathFindings policy path (ss ++ ts) =
      pathFindings policy path ss ++ pathFindings policy path ts := by
  simp only [pathFindings]
  split_ifs
  · rfl
  · exact List.flatMap_append

lemma plainLint_cons (policy : Policy) (e : String × List Script)
    (rest : List (String × List Script)) :
    plainLint policy (e :: rest) = pathFindings policy e.1 e.2 ++ plainLint policy rest := rfl

/-- A script that is added under a path adds its findings, if the path is looked at. -/
lemma plainLint_putScript (policy : Policy) (p : String → Bool) (key : String) (s : Script) :
    (plainLint policy ((putScript key s found).filter fun e => p e.1)).Perm
      (plainLint policy (found.filter fun e => p e.1) ++
        if p key then pathFindings policy key [s] else []) := by
  fun_induction putScript key s found with
  | case1 => cases hp : p key <;> simp [plainLint, hp]
  | case2 ss rest =>
    cases hp : p key with
    | false => simp [hp]
    | true =>
      simp only [List.filter_cons, hp, if_true, plainLint_cons, pathFindings_append,
        List.append_assoc]
      exact List.perm_append_comm.append_left _
  | case3 k ss rest hne ih =>
    cases hp : p k with
    | false => simpa [hp] using ih
    | true =>
      simp only [List.filter_cons, hp, if_true, plainLint_cons, List.append_assoc]
      exact ih.append_left _

lemma plainLint_gather (policy : Policy) (p : String → Bool) :
    (plainLint policy ((gather entries found).filter fun e => p e.1)).Perm
      (plainLint policy (found.filter fun e => p e.1) ++
        (entries.filter fun e => p e.1).flatMap fun e => pathFindings policy e.1 [e.2]) := by
  induction entries generalizing found with
  | nil => simp [gather]
  | cons e entries ih =>
    refine ih.trans ?_
    refine ((plainLint_putScript policy p e.1 e.2).append_right _).trans ?_
    cases hp : p e.1 <;> simp [hp]

/-- A script as the grammar reads its text. -/
def Script.Parsed (s : Script) : Prop := s.root = Script.Language.parse s.text

lemma parsed_putScript {key : String} {s : Script} (hs : s.Parsed)
    (h : ∀ e ∈ found, ∀ s ∈ e.2, s.Parsed) : ∀ e ∈ putScript key s found, ∀ s ∈ e.2, s.Parsed := by
  fun_induction putScript key s found with
  | case1 => simpa using hs
  | case2 ss rest =>
    obtain ⟨hhead, htail⟩ := List.forall_mem_cons.1 h
    exact List.forall_mem_cons.2
      ⟨List.forall_mem_append.2 ⟨hhead, List.forall_mem_singleton.2 hs⟩, htail⟩
  | case3 k ss rest hne ih =>
    obtain ⟨hhead, htail⟩ := List.forall_mem_cons.1 h
    exact List.forall_mem_cons.2 ⟨hhead, ih htail⟩

lemma parsed_gather (hentries : ∀ e ∈ entries, e.2.Parsed)
    (h : ∀ e ∈ found, ∀ s ∈ e.2, s.Parsed) : ∀ e ∈ gather entries found, ∀ s ∈ e.2, s.Parsed := by
  induction entries generalizing found with
  | nil => exact h
  | cons e entries ih =>
    obtain ⟨hhead, htail⟩ := List.forall_mem_cons.1 hentries
    exact ih htail (parsed_putScript hhead h)

/-- Parsed scripts can always be checked. -/
lemma lint_parsed (hgrammar : Script.Language.FallsOnBoundaries) (policy : Policy)
    (h : ∀ e ∈ found, ∀ s ∈ e.2, s.Parsed) :
    Conformance.lint policy found = .ok (plainLint policy found) := by
  induction found with
  | nil => rfl
  | cons e found ih =>
    obtain ⟨hhead, htail⟩ := List.forall_mem_cons.1 h
    refine Conformance.lint_cons (fun s hs => ?_) (ih htail)
    exact hgrammar s (hhead s hs)

end Gathered

/-! ### Runs -/

lemma parsed_of_script? {files : Files} {element : Place} {key : String} {s : Script}
    (h : script? files document element = some (key, s)) : s.Parsed := by
  unfold script? at h
  split at h
  · cases h
  · cases h
  · obtain ⟨text, -, hpair⟩ := Option.map_eq_some_iff.1 h
    cases hpair
    rfl
  · cases h
    rfl

lemma parsed_of_loads? (hgrammar : Script.Language.FallsOnBoundaries)
    (h : loads? w follow path = some loads) :
    ∀ e ∈ loads.map Load.entry, e.2.Parsed := by
  refine List.forall_mem_map.2 fun l hl => ?_
  rcases (sound_of_loads? hgrammar h).whole l hl with
    ⟨-, -, text, -, -, -, hscript⟩ | ⟨-, d, -, hmem, -⟩
  · rw [Load.entry, hscript]
    rfl
  · obtain ⟨e, -, he⟩ := List.mem_filterMap.1 hmem
    obtain ⟨⟨key, s⟩, hs, rfl⟩ := Option.map_eq_some_iff.1 he
    exact parsed_of_script? hs

namespace Task

/-- A run of a policy, and of the rules of the program except some. -/
def checking (policy : Policy) (disabled : List String) (follow : Bool) : Task :=
  { full (some policy) follow with disabled := disabled }

variable {disabled : List String} {seen : List String} {found : List Diagnostic} {p : Progress}

lemma examine_of_loads? (hgrammar : Script.Language.FallsOnBoundaries)
    (policy : Policy) (disabled : List String)
    (h : loads? w follow path = some loads) :
    ∃ found warned, (checking policy disabled follow).examine w path =
        .ok (gather (loads.map Load.entry) [], found, warned) ∧
      ∀ d ∈ found, d.ruleId ≠ Conformance.ruleId := by
  unfold loads? at h
  rw [examine]
  split_ifs at h ⊢
  · obtain ⟨text, htext, rfl⟩ := Option.map_eq_some_iff.1 h
    exact ⟨[], [], bind_eq_ok.2 ⟨text, toOption_eq_some.1 htext, rfl⟩, by simp⟩
  · obtain ⟨a, ha, rfl⟩ := Option.map_eq_some_iff.1 h
    obtain ⟨order, -, hholds⟩ := Analysis.ofEntry_holds hgrammar (toOption_eq_some.1 ha)
    obtain ⟨found, -, hfound, hknown⟩ := Registry.builtin_run a.model path disabled
    refine ⟨kept disabled found, a.warnings,
      bind_eq_ok.2 ⟨a, toOption_eq_some.1 ha, bind_eq_ok.2 ⟨_, hfound, ?_⟩⟩, ?_⟩
    · have hscripts : a.scripts =
          gather ((a.documents.flatMap (loadsOf w)).map Load.entry) [] := by
        rw [hholds.scripts, List.map_flatMap]
        simp only [map_loadsOf]
      rw [hscripts]
      rfl
    · intro d hd heq
      have hid := (hknown d (List.mem_of_mem_filter hd)).2
      exact Conformance.ruleId_not_mem_builtin (heq ▸ hid)

lemma examine_error (policy : Policy) (disabled : List String)
    (h : loads? w follow path = none) :
    ∃ e, (checking policy disabled follow).examine w path = .error e := by
  cases hexamine : (checking policy disabled follow).examine w path with
  | error e => exact ⟨e, rfl⟩
  | ok r =>
    rw [examine] at hexamine
    unfold loads? at h
    split_ifs at h hexamine
    · obtain ⟨text, htext, -⟩ := bind_eq_ok.1 hexamine
      rw [htext] at h
      cases h
    · obtain ⟨a, ha, -⟩ := bind_eq_ok.1 hexamine
      rw [show ofEntry w.named follow path = .ok a from ha] at h
      cases h

lemma Records.fresh_findings (h : Records seen found p) (policy : Policy) (loads : List Load) :
    (plainLint policy (fresh p.checked loads)).Perm
      ((loads.filter fun l => l.key ∉ seen).flatMap (Load.findings policy)) := by
  refine (plainLint_gather policy fun key => !p.checked.contains key).trans ?_
  have hsame : loads.filter ((fun e => !p.checked.contains e.1) ∘ Load.entry) =
      loads.filter fun l => l.key ∉ seen :=
    List.filter_congr fun l _ => by
      have hseen := h.checked l.key
      grind [Load.entry]
  rw [List.filter_map, List.flatMap_map, hsame]
  exact .refl _

/-- **One input** adds the findings of the scripts that it loads under new paths. -/
lemma step_records (hgrammar : Script.Language.FallsOnBoundaries) (policy : Policy)
    (disabled : List String)
    (hloads : loads? w follow path = some loads) (h : Records seen found p) :
    ∃ p', (checking policy disabled follow).step w p path = .ok p' ∧
      Records (seen ++ loads.map (·.key))
        (found ++ (loads.filter fun l => l.key ∉ seen).flatMap (Load.findings policy)) p' := by
  obtain ⟨others, warned, hexamine, hothers⟩ := examine_of_loads? hgrammar policy disabled hloads
  have hparsed : ∀ e ∈ fresh p.checked loads, ∀ s ∈ e.2, s.Parsed := fun e he =>
    parsed_gather (parsed_of_loads? hgrammar hloads) (by simp) e (List.mem_of_mem_filter he)
  have hlint := lint_parsed hgrammar policy hparsed
  refine ⟨_, bind_eq_ok.2 ⟨_, hexamine, bind_eq_ok.2 ⟨_, hlint, rfl⟩⟩, h.fresh_keys loads, ?_⟩
  have hnone : others.filter (·.ruleId == Conformance.ruleId) = [] :=
    List.filter_eq_nil_iff.2 fun d hd => by simpa using hothers d hd
  have hall : (plainLint policy (fresh p.checked loads)).filter
      (·.ruleId == Conformance.ruleId) = plainLint policy (fresh p.checked loads) :=
    List.filter_eq_self.2 fun d hd => by simpa using (Conformance.marked_lint hlint d hd).1
  rw [Report.byRule, Report.extend, Report.extend, List.filter_append, List.filter_append, hnone,
    hall, List.append_nil]
  exact h.found.append (h.fresh_findings policy loads)

/-- **A run** has the findings of the scripts that are loaded under new paths, input by input. -/
lemma foldlM_records (hgrammar : Script.Language.FallsOnBoundaries) (policy : Policy)
    (disabled : List String) {inputs : List String}
    (hloaded : inputs.mapM (loads? w follow) = some loaded) (h : Records seen found p) :
    ∃ p', inputs.foldlM ((checking policy disabled follow).step w) p = .ok p' ∧
      (p'.report.byRule Conformance.ruleId).Perm
        (found ++ (firsts seen loaded).flatMap (Load.findings policy)) := by
  induction inputs generalizing loaded seen found p with
  | nil =>
    cases hloaded
    exact ⟨p, rfl, by simpa [firsts] using h.found⟩
  | cons path inputs ih =>
    rw [List.mapM_cons] at hloaded
    obtain ⟨loads, hloads, hloaded⟩ := Option.bind_eq_some_iff.1 hloaded
    obtain ⟨rest, hrest, hloaded⟩ := Option.bind_eq_some_iff.1 hloaded
    cases hloaded
    obtain ⟨p₁, hstep, hrecords⟩ := step_records hgrammar policy disabled hloads h
    obtain ⟨p', hrun, hfound⟩ := ih hrest hrecords
    refine ⟨p', ?_, ?_⟩
    · rw [List.foldlM_cons]
      exact bind_eq_ok.2 ⟨p₁, hstep, hrun⟩
    · rwa [firsts, List.flatMap_append, ← List.append_assoc]

lemma foldlM_error (hgrammar : Script.Language.FallsOnBoundaries) (policy : Policy)
    (disabled : List String) {inputs : List String}
    (h : inputs.mapM (loads? w follow) = none) (p : Progress) :
    ∃ e, inputs.foldlM ((checking policy disabled follow).step w) p = .error e := by
  induction inputs generalizing p with
  | nil => cases h
  | cons path inputs ih =>
    rw [List.foldlM_cons]
    cases hloads : loads? w follow path with
    | none =>
      obtain ⟨e, hexamine⟩ := examine_error policy disabled hloads
      rw [step, hexamine]
      exact ⟨e, rfl⟩
    | some loads =>
      have hrecords : Records p.checked (p.report.byRule Conformance.ruleId) p :=
        ⟨fun _ => Iff.rfl, .refl _⟩
      obtain ⟨p', hstep, -⟩ := step_records hgrammar policy disabled hloads hrecords
      rw [hstep]
      refine ih ?_ p'
      rw [List.mapM_cons, hloads] at h
      cases hrest : inputs.mapM (loads? w follow) with
      | none => rfl
      | some rest =>
        rw [hrest] at h
        cases h

end Task

/-! ### Scripts that are checked -/

lemma Unambiguous.origins_nodup (h : Unambiguous loaded)
    (hsound : ∀ loads ∈ loaded, Sound w loads) :
    ((firsts [] loaded).map (·.origin)).Nodup := by
  refine List.pairwise_map.2 (firsts_pairwise ?_ fun l hl l' hl' hne horigin =>
    hne (h.spelled l hl l' hl' horigin))
  intro loads hloads
  have hflat : ∀ l ∈ loads, l ∈ loaded.flatten := fun l hl => List.mem_flatten_of_mem hloads hl
  refine ((h.once loads hloads).and (hsound loads hloads).apart).imp_of_mem ?_
  rintro l l' hl hl' ⟨honce, hapart⟩ horigin
  have hkey := h.spelled l (hflat l hl) l' (hflat l' hl') horigin
  exact honce (hapart hkey (congrArg Origin.element horigin)) horigin

/-- A document has the same script elements for every input. -/
lemma Sound.mem_of_element {loads' : List Load} (h : Sound w loads) (h' : Sound w loads')
    (hl : l ∈ loads) (hl' : l' ∈ loads') (hkey : l'.key = l.key)
    (helement : l.origin.element ≠ none) (helement' : l'.origin.element ≠ none) : l ∈ loads' := by
  rcases h.whole l hl with hfile | ⟨-, d, hd, hld, -⟩
  · exact absurd hfile.element helement
  rcases h'.whole l' hl' with hfile' | ⟨-, d', hd', -, hall⟩
  · exact absurd hfile'.element helement'
  rw [hkey, hd] at hd'
  cases hd'
  exact hall hld

/-- Two loads of one file under one path are the same. -/
lemma Sound.eq_of_file {loads' : List Load} (h : Sound w loads) (h' : Sound w loads')
    (hl : l ∈ loads) (hl' : l' ∈ loads') (hkey : l'.key = l.key) (horigin : l'.origin = l.origin)
    (helement : l.origin.element = none) : l' = l := by
  rcases h.whole l hl with hfile | ⟨hsome, -⟩
  · rcases h'.whole l' hl' with hfile' | ⟨hsome', -⟩
    · exact hfile'.eq hfile hkey horigin
    · simp [horigin, helement] at hsome'
  · simp [helement] at hsome

lemma Unambiguous.mem_firsts (h : Unambiguous loaded)
    (hsound : ∀ loads ∈ loaded, Sound w loads) (hl : l ∈ loaded.flatten) :
    l ∈ firsts [] loaded := by
  obtain ⟨first, hfirst, ⟨l', hl', hkey⟩, hall⟩ := exists_first hl List.not_mem_nil
  obtain ⟨loads, hloads, hmem⟩ := List.mem_flatten.1 hl
  have hflat : l' ∈ loaded.flatten := List.mem_flatten_of_mem hfirst hl'
  have hsame := hsound loads hloads
  have hsame' := hsound first hfirst
  by_cases helement : l.origin.element = none
  · have horigin := h.own l hl l' hflat hkey.symm helement
    exact hsame.eq_of_file hsame' hmem hl' hkey horigin.symm helement ▸ hall l' hl' hkey
  · have helement' : l'.origin.element ≠ none := fun hnone =>
      helement (h.own l' hflat l hl hkey hnone ▸ hnone)
    exact hall l (hsame.mem_of_element hsame' hmem hl' hkey helement helement') rfl

lemma sound_of_mapM (hgrammar : Script.Language.FallsOnBoundaries) {inputs : List String}
    (h : inputs.mapM (loads? w follow) = some loaded) : ∀ loads ∈ loaded, Sound w loads := by
  induction inputs generalizing loaded with
  | nil =>
    cases h
    simp
  | cons path inputs ih =>
    rw [List.mapM_cons] at h
    obtain ⟨loads, hloads, h⟩ := Option.bind_eq_some_iff.1 h
    obtain ⟨rest, hrest, h⟩ := Option.bind_eq_some_iff.1 h
    cases h
    exact List.forall_mem_cons.2 ⟨sound_of_loads? hgrammar hloads, ih hrest⟩

/-- **A run checks what its inputs load, path by path and each path once.** Where the grammar keeps
to boundaries, it fails exactly if an input cannot be loaded; otherwise the findings of the policy
are those in the scripts that are loaded under a path for the first time. If each script goes by one
path, the path of a script file is for it alone and no input has a script file twice, these are all
scripts that any input loads, and each file and each script element is among them once. -/
theorem run_checks_scripts_once (hgrammar : Script.Language.FallsOnBoundaries) (policy : Policy)
    (disabled : List String) (follow : Bool) (w : Workspace) (inputs : List String) :
    (inputs.mapM (loads? w follow) = none →
      ∃ e, (Task.checking policy disabled follow).run w inputs = .error e) ∧
    ∀ loaded, inputs.mapM (loads? w follow) = some loaded →
      ∃ p, (Task.checking policy disabled follow).run w inputs = .ok p ∧
        (p.report.byRule Conformance.ruleId).Perm
          ((firsts [] loaded).flatMap (Load.findings policy)) ∧
        (Unambiguous loaded → ((firsts [] loaded).map (·.origin)).Nodup ∧
          ∀ l, l ∈ firsts [] loaded ↔ l ∈ loaded.flatten) := by
  refine ⟨fun hnone => Task.foldlM_error hgrammar policy disabled hnone {},
    fun loaded hloaded => ?_⟩
  have hstart : Task.Records [] [] {} := ⟨fun _ => Iff.rfl, .refl _⟩
  obtain ⟨p, hrun, hfound⟩ := Task.foldlM_records hgrammar policy disabled hloaded hstart
  have hsound := sound_of_mapM hgrammar hloaded
  exact ⟨p, hrun, hfound, fun h => ⟨h.origins_nodup hsound,
    fun l => ⟨mem_flatten_of_mem_firsts, h.mem_firsts hsound⟩⟩⟩

end

/-- A script file that two documents name, one of which has a script of its own. -/
def sharedScript : Workspace where
  store :=
    { files :=
        [(["s.js"], "eval(1)".toUTF8),
         (["a.html"], "<script src=s.js></script><script>eval(2)</script>".toUTF8),
         (["b.html"], "<script src='./s.js'></script>".toUTF8)]
      directories := [[]] }
  directory := []

theorem run_sharedScript : letI := evalGrammar
    Script.Language.FallsOnBoundaries ∧
    ∃ loaded, ["a.html", "b.html", "s.js", "a.html"].mapM (loads? sharedScript false) =
        some loaded ∧ Unambiguous loaded ∧
      ∃ p, (Task.checking evalPolicy [] false).run sharedScript
          ["a.html", "b.html", "s.js", "a.html"] = .ok p ∧
        ((p.report.byRule Conformance.ruleId).map (·.filename)).Perm ["s.js", "a.html"] ∧
        ((firsts [] loaded).map (·.origin)).Nodup ∧
        ∀ l, l ∈ firsts [] loaded ↔ l ∈ loaded.flatten := by
  let _ := evalGrammar
  have hgrammar : Script.Language.FallsOnBoundaries :=
    Script.Language.fallsOnBoundaries_ofTrees (by decide)
  have hloads : ∃ loaded ∈ ["a.html", "b.html", "s.js", "a.html"].mapM (loads? sharedScript false),
      Unambiguous loaded ∧
        ((firsts [] loaded).flatMap (Load.findings evalPolicy)).map (·.filename) =
          ["s.js", "a.html"] := by
    decide +kernel
  obtain ⟨loaded, hloaded, hclear, hnames⟩ := hloads
  obtain ⟨p, hrun, hfound, honce⟩ :=
    (run_checks_scripts_once hgrammar evalPolicy [] false sharedScript _).2 loaded hloaded
  exact ⟨hgrammar, loaded, hloaded, hclear, p, hrun, hnames ▸ hfound.map _, honce hclear⟩

/-- A script file, a document that names it twice, a document with a script of its own, and one
that names this document as a script file. -/
def ambiguousPaths : Workspace where
  store :=
    { files :=
        [(["a.js"], "eval(1);".toUTF8),
         (["twice.html"], "<script src=a.js></script><script src=a.js></script>".toUTF8),
         (["own.html"], "<script>eval(2)</script>".toUTF8),
         (["other.html"], "<script src=own.html></script>".toUTF8)]
      directories := [[]] }
  directory := []

/-- What a run finds at the banned name. -/
def evalFindings [Script.Language] (inputs : List String) : Option (List (String × Location)) :=
  ((Task.checking evalPolicy [] false).run ambiguousPaths inputs).toOption.map fun p =>
    (p.report.byRule Conformance.ruleId).map fun d => (d.filename, d.location)

/-- A file under two paths is checked twice, and so is one that a document names twice; a script
in a document is not checked if the document has been loaded as a script file. -/
theorem run_ambiguousPaths : letI := evalGrammar
    ambiguousPaths.locate (Path.reduce "a.js") = ambiguousPaths.locate (Path.reduce "./a.js") ∧
    evalFindings ["a.js"] = some [("a.js", ⟨1, 0⟩)] ∧
    evalFindings ["a.js", "./a.js"] = some [("a.js", ⟨1, 0⟩), ("./a.js", ⟨1, 0⟩)] ∧
    evalFindings ["twice.html"] = some [("a.js", ⟨1, 0⟩), ("a.js", ⟨1, 0⟩)] ∧
    evalFindings ["own.html"] = some [("own.html", ⟨1, 8⟩)] ∧
    evalFindings ["other.html", "own.html"] = some [] := by
  decide +kernel

end ComponentLint
