import ComponentLint.Analysis
import ComponentLint.Proofs.DepthFirst
import ComponentLint.Proofs.IndexLookup
import ComponentLint.Proofs.ReadableMarkup

/-!
What is loaded for an entry document, and in which order.

The files alone say which document imports which: a link counts if it is an import with a
reference that is not remote and leads to a file. Gathering meets the documents as a depth-first
search over that graph does, with the links of a document in its order, and takes the scripts of
each document when it is met.
-/

namespace ComponentLint.Analysis

open Conformance (bind_eq_ok)
open Markup (Document Place)
/-! ### What the files say -/

/-- The document in a file, if it can be read as one. -/
def document? (files : Files) (href : String) : Option Document :=
  (content? files href).bind fun b =>
    (Workspace.decode? b).bind fun text => (Document.parse href text).toOption

/-- The file that a place in a document imports. -/
def import? (files : Files) (href : String) (p : Place) : Option String :=
  if p.hasTag "link" ∧ Path.isImport (p.attributeValue? "rel") then
    match p.attributeValue? "href" with
    | some reference =>
      let path := Path.resolve href reference
      if reference ≠ "" ∧ !Path.isRemote reference ∧ (content? files path).isSome then some path
      else none
    | none => none
  else none

/-- The files that a document imports, in its order. -/
def imports (files : Files) (href : String) : List String :=
  ((document? files href).map fun d => (Place.root d).walk.filterMap (import? files href)).getD []

/-- An entry leads to a document through imports. -/
abbrev Reaches (files : Files) : String → String → Prop :=
  Relation.ReflTransGen fun href path => path ∈ imports files href

/-- A script element whose file, if it has one, holds text. -/
def Legible (files : Files) (document : String) (element : Place) : Prop :=
  ∀ path b, scriptContent files document element = .file path b → (Workspace.decode? b).isSome

/-- A document that can be loaded: it can be read, and so can the files of its scripts. -/
def Loadable (files : Files) (href : String) : Prop :=
  ∃ d, document? files href = some d ∧
    ∀ element ∈ (Place.root d).walkAll (Place.hasTag "script"), Legible files href element

variable {files : Files} {a : Analysis} {href path document : String} {b : ByteArray}

lemma href_of_parse {text : String} {d : Document} (h : Document.parse href text = .ok d) :
    d.href = href := by
  obtain ⟨events, -, hd⟩ := bind_eq_ok.1 h
  cases hd
  rfl

lemma toOption_eq_some {α : Type} {x : Except Fault α} {v : α} :
    x.toOption = some v ↔ x = .ok v := by
  cases x <;> simp [Except.toOption]

lemma document?_eq_some {d : Document} : document? files href = some d ↔
    ∃ b text, content? files href = some b ∧ Workspace.decode? b = some text ∧
      Document.parse href text = .ok d := by
  simp only [document?, Option.bind_eq_some_iff, toOption_eq_some]
  grind

lemma document?_href {d : Document} (h : document? files href = some d) : d.href = href := by
  obtain ⟨b, text, -, -, hparse⟩ := document?_eq_some.1 h
  exact href_of_parse hparse

/-- The imports of a document are where its links lead. -/
def target? (files : Files) (l : Link) : Option String :=
  match target files l with
  | .file path _ => some path
  | _ => none

lemma imports_eq {d : Document} (h : document? files href = some d) :
    imports files href = (links d).filterMap (target? files) := by
  rw [imports, h, links, Place.walkAll, document?_href h, ← List.filterMap_eq_filter]
  simp only [Option.map_some, Option.getD_some, List.filterMap_filterMap]
  refine List.filterMap_congr fun p _ => ?_
  unfold import? link? target? target
  grind

/-! ### What has been loaded -/

/-- Adds scripts in turn, each under its path. -/
def gather (scripts : List (String × Script)) (found : List (String × List Script)) :
    List (String × List Script) :=
  scripts.foldl (fun found e => putScript e.1 e.2 found) found

/-- An analysis after some more documents and scripts have been loaded. -/
structure Adds (ds : List Document) (scripts : List (String × Script)) (a a' : Analysis) :
    Prop where
  documents : a'.documents = a.documents ++ ds
  scripts : a'.scripts = gather scripts a.scripts

lemma Adds.nothing {a' : Analysis} (hdocuments : a'.documents = a.documents)
    (hscripts : a'.scripts = a.scripts) : Adds [] [] a a' :=
  ⟨by rw [hdocuments, List.append_nil], hscripts⟩

lemma Adds.trans {ds ds' : List Document} {ss ss' : List (String × Script)} {a' a'' : Analysis}
    (h : Adds ds ss a a') (h' : Adds ds' ss' a' a'') : Adds (ds ++ ds') (ss ++ ss') a a'' where
  documents := by rw [h'.documents, h.documents, List.append_assoc]
  scripts := by rw [h'.scripts, h.scripts, gather, gather, gather, List.foldl_append]

lemma hrefs_of_documents {order : List String} {ds : List Document}
    (h : order.map (document? files) = ds.map some) : ds.map (·.href) = order := by
  induction ds generalizing order with
  | nil => simpa using h.symm
  | cons d ds ih =>
    cases order with
    | nil => cases h
    | cons href order =>
      obtain ⟨hd, hds⟩ := List.cons_eq_cons.1 h
      rw [List.map_cons, document?_href hd, ih hds]

lemma content?_of_scriptContent {element : Place}
    (h : scriptContent files document element = .file path b) : content? files path = some b := by
  unfold scriptContent inlineContent at h
  grind

lemma content?_of_target {l : Link} (h : target files l = .file path b) :
    content? files path = some b := by
  unfold target at h
  grind

/-- What has not been loaded is what the search has not seen. -/
def Unseen (files remaining : Files) (seen : Set String) : Prop :=
  ∀ path, (content? files path).isSome → (remaining.any (·.1 == path) ↔ path ∉ seen)

lemma Unseen.without {remaining : Files} {seen : Set String} (h : Unseen files remaining seen)
    (path : String) : Unseen files (without path remaining) (insert path seen) := by
  intro other hother
  have hiff := h other hother
  simp only [Analysis.without, List.any_filter, List.any_eq_true] at hiff ⊢
  grind

lemma unseen_start (files : Files) (start : String) :
    Unseen files (without start files) {start} := by
  have hall : Unseen files files ∅ := by
    intro path hpath
    obtain ⟨b, hb⟩ := Option.isSome_iff_exists.1 hpath
    obtain ⟨before, after, rfl, -⟩ := List.lookup_eq_some_iff.1 hb
    simp
  simpa using hall.without start

/-! ### Documents that can be loaded -/

lemma readText_eq {text : String} (h : Workspace.decode? b = some text) :
    readText path b = .ok text := by
  rw [readText, h]

/-- Where all files hold text, a document can be loaded if its text is plain. -/
lemma loadable_of_plain (hall : ∀ f ∈ files, (Workspace.decode? f.2).isSome) (text : String)
    (hb : content? files href = some b) (htext : Workspace.decode? b = some text)
    (hplain : Markup.IsPlain text.toList) : Loadable files href := by
  obtain ⟨d, hd⟩ := Markup.exists_parse_of_isPlain hplain href
  refine ⟨d, document?_eq_some.2 ⟨b, text, hb, htext, hd⟩, ?_⟩
  intro element _ path b' hcontent
  obtain ⟨before, after, rfl, -⟩ := List.lookup_eq_some_iff.1 (content?_of_scriptContent hcontent)
  exact hall (path, b') (by simp)

/-! ### Loading -/

section

variable [Script.Language]

/-- The script that an element stands for, with the path it is checked under. -/
def script? (files : Files) (document : String) (element : Place) : Option (String × Script) :=
  match scriptContent files document element with
  | .nothing | .missing _ => none
  | .file path b => (Workspace.decode? b).map fun text =>
    (path, { root := Script.Language.parse text, text := text, source := some path })
  | .text text start => some (document,
    { root := Script.Language.parse text, text := text, source := some document
      lineOffset := start.line - 1, columnOffset := start.column })

/-- The scripts of a document in its order. -/
def scriptsOf (files : Files) (d : Document) : List (String × Script) :=
  ((Place.root d).walkAll (Place.hasTag "script")).filterMap (script? files d.href)

lemma addScript_adds (hgrammar : Script.Language.FallsOnBoundaries) {s : Script}
    (hs : s.root = Script.Language.parse s.text) (a : Analysis) (key : String) (element : Place) :
    ∃ a', a.addScript key s element = .ok a' ∧ Adds [] [(key, s)] a a' := by
  obtain ⟨found, hfound⟩ := Registration.components_ok hgrammar hs element
  refine ⟨{ a with scripts := putScript key s a.scripts, components := a.components ++ found },
    ?_, by simp, rfl⟩
  rw [addScript, hfound]
  rfl

lemma loadScript_adds (hgrammar : Script.Language.FallsOnBoundaries) {element : Place}
    (h : Legible files document element) (a : Analysis) :
    ∃ a', loadScript files document a element = .ok a' ∧
      Adds [] (script? files document element).toList a a' := by
  unfold loadScript script?
  cases hcontent : scriptContent files document element with
  | nothing => exact ⟨a, rfl, .nothing rfl rfl⟩
  | missing src => exact ⟨_, rfl, .nothing rfl rfl⟩
  | file path b =>
    obtain ⟨text, hdecode⟩ := Option.isSome_iff_exists.1 (h path b hcontent)
    simp only [readText_eq hdecode, hdecode]
    exact addScript_adds hgrammar rfl a path element
  | text value start => exact addScript_adds hgrammar rfl a document element

lemma loadScript_error {element : Place} (h : ¬Legible files document element) (a : Analysis) :
    ∃ e, loadScript files document a element = .error e := by
  simp only [Legible, not_forall] at h
  obtain ⟨path, b, hcontent, hnone⟩ := h
  have hdecode : Workspace.decode? b = none := by simpa using hnone
  simp only [loadScript, hcontent, readText, hdecode]
  exact ⟨_, rfl⟩

lemma loadScripts_adds (hgrammar : Script.Language.FallsOnBoundaries) {elements : List Place}
    (h : ∀ element ∈ elements, Legible files document element) (a : Analysis) :
    ∃ a', loadScripts files document a elements = .ok a' ∧
      Adds [] (elements.filterMap (script? files document)) a a' := by
  unfold loadScripts
  induction elements generalizing a with
  | nil => exact ⟨a, rfl, .nothing rfl rfl⟩
  | cons element elements ih =>
    obtain ⟨hhead, htail⟩ := List.forall_mem_cons.1 h
    obtain ⟨a', hload, hadds⟩ := loadScript_adds hgrammar hhead a
    obtain ⟨a'', hrest, hadds'⟩ := ih htail a'
    refine ⟨a'', ?_, ?_⟩
    · rw [List.foldlM_cons, hload]
      exact hrest
    · have hcons : (element :: elements).filterMap (script? files document) =
          (script? files document element).toList ++
            elements.filterMap (script? files document) := by
        cases h : script? files document element <;> simp [h]
      rw [hcons]
      exact hadds.trans hadds'

lemma loadScripts_error (hgrammar : Script.Language.FallsOnBoundaries) {elements : List Place}
    (h : ¬∀ element ∈ elements, Legible files document element) (a : Analysis) :
    ∃ e, loadScripts files document a elements = .error e := by
  unfold loadScripts
  induction elements generalizing a with
  | nil => simp at h
  | cons element elements ih =>
    rw [List.foldlM_cons]
    by_cases hhead : Legible files document element
    · obtain ⟨a', hload, -⟩ := loadScript_adds hgrammar hhead a
      rw [hload]
      exact ih (fun htail => h (List.forall_mem_cons.2 ⟨hhead, htail⟩)) a'
    · obtain ⟨e, hload⟩ := loadScript_error hhead a
      rw [hload]
      exact ⟨e, rfl⟩

lemma loadDocument_adds (hgrammar : Script.Language.FallsOnBoundaries)
    (hb : content? files href = some b) (h : Loadable files href)
    (a : Analysis) : ∃ a' d, loadDocument files a href b = .ok (a', d) ∧
      document? files href = some d ∧ Adds [d] (scriptsOf files d) a a' := by
  obtain ⟨d, hd, hlegible⟩ := h
  obtain ⟨b', text, hb', hdecode, hparse⟩ := document?_eq_some.1 hd
  cases hb.symm.trans hb'
  obtain ⟨a', hload, hadds⟩ :=
    loadScripts_adds hgrammar hlegible { a with documents := a.documents ++ [d] }
  refine ⟨a', d, ?_, hd, ?_, ?_⟩
  · unfold loadDocument
    exact bind_eq_ok.2 ⟨text, readText_eq hdecode,
      bind_eq_ok.2 ⟨d, hparse, bind_eq_ok.2 ⟨a', hload, rfl⟩⟩⟩
  · rw [hadds.documents, List.append_nil]
  · rw [hadds.scripts, scriptsOf, document?_href hd]

lemma loadDocument_error (hgrammar : Script.Language.FallsOnBoundaries)
    (hb : content? files href = some b) (h : ¬Loadable files href)
    (a : Analysis) : ∃ e, loadDocument files a href b = .error e := by
  cases hload : loadDocument files a href b with
  | error e => exact ⟨e, rfl⟩
  | ok r =>
    obtain ⟨text, hread, hload⟩ := bind_eq_ok.1 hload
    obtain ⟨d, hparse, hload⟩ := bind_eq_ok.1 hload
    obtain ⟨a', hscripts, -⟩ := bind_eq_ok.1 hload
    have hdecode : Workspace.decode? b = some text := by
      unfold readText at hread
      split at hread <;> simp_all
    refine absurd ⟨d, document?_eq_some.2 ⟨b, text, hb, hdecode, hparse⟩, ?_⟩ h
    by_contra hlegible
    obtain ⟨e, herror⟩ :=
      loadScripts_error hgrammar hlegible { a with documents := a.documents ++ [d] }
    cases hscripts.symm.trans herror

/-! ### Following imports -/

/-- The documents of some files, all of which can be loaded, are added in their order. -/
structure Loads (files : Files) (met : List String) (a a' : Analysis) : Prop where
  loadable : ∀ href ∈ met, Loadable files href
  adds : ∃ ds, met.map (document? files) = ds.map some ∧
    Adds ds (ds.flatMap (scriptsOf files)) a a'

lemma Loads.nothing (a : Analysis) : Loads files [] a a := ⟨by simp, [], rfl, .nothing rfl rfl⟩

lemma Loads.trans {met met' : List String} {a' a'' : Analysis} (h : Loads files met a a')
    (h' : Loads files met' a' a'') : Loads files (met ++ met') a a'' := by
  obtain ⟨ds, hds, hadds⟩ := h.adds
  obtain ⟨ds', hds', hadds'⟩ := h'.adds
  refine ⟨List.forall_mem_append.2 ⟨h.loadable, h'.loadable⟩, ds ++ ds', by simp [hds, hds'], ?_⟩
  rw [List.flatMap_append]
  exact hadds.trans hadds'

lemma Loads.of_warn {met : List String} {a' : Analysis} {w : Warning}
    (h : Loads files met (a.warn w) a') : Loads files met a a' := by
  obtain ⟨ds, hds, hadds⟩ := h.adds
  exact ⟨h.loadable, ds, hds, hadds.documents, hadds.scripts⟩

lemma Loads.one (hgrammar : Script.Language.FallsOnBoundaries)
    (hb : content? files href = some b) (h : Loadable files href) (a : Analysis) :
    ∃ a' d, loadDocument files a href b = .ok (a', d) ∧ document? files href = some d ∧
      Loads files [href] a a' := by
  obtain ⟨a', d, hload, hd, hadds⟩ := loadDocument_adds hgrammar hb h a
  exact ⟨a', d, hload, hd, by simpa using h, [d], by simp [hd], by simpa using hadds⟩

/-- What following links to some paths comes to: the documents that a search from these paths meets
are loaded, or one that can be reached from them cannot be loaded. -/
inductive Followed (files : Files) (seen : Set String) (paths : List String) (a : Analysis) :
    Except Fault Analysis → Prop where
  | loads {a' : Analysis} {met : List String} (hexplores : Explores (imports files) seen paths met)
      (hloads : Loads files met a a') : Followed files seen paths a (.ok a')
  | fails {e : Fault} {via href : String} (hvia : via ∈ paths) (hreach : Reaches files via href)
      (hbad : ¬Loadable files href) : Followed files seen paths a (.error e)

section Followed

variable {seen : Set String} {paths : List String} {result : Except Fault Analysis}

lemma Followed.of_warn {w : Warning} (h : Followed files seen paths (a.warn w) result) :
    Followed files seen paths a result := by
  cases h with
  | loads hexplores hloads => exact .loads hexplores hloads.of_warn
  | fails hvia hreach hbad => exact .fails hvia hreach hbad

/-- A path that the search has seen is passed over. -/
lemma Followed.again (hold : path ∈ seen) (h : Followed files seen paths a result) :
    Followed files seen (path :: paths) a result := by
  cases h with
  | loads hexplores hloads => exact .loads (.again hold hexplores) hloads
  | fails hvia hreach hbad => exact .fails (List.mem_cons_of_mem _ hvia) hreach hbad

/-- After a new path come the paths that its document imports, in front of the others. -/
lemma Followed.first {a₁ : Analysis} (hnew : path ∉ seen) (hone : Loads files [path] a a₁)
    (h : Followed files (insert path seen) (imports files path ++ paths) a₁ result) :
    Followed files seen (path :: paths) a result := by
  cases h with
  | loads hexplores hloads =>
    obtain ⟨below, after, rfl, hbelow, hafter⟩ := hexplores.split
    exact .loads (.first hnew hbelow hafter) (hone.trans hloads)
  | fails hvia hreach hbad =>
    rcases List.mem_append.1 hvia with hvia | hvia
    · exact .fails List.mem_cons_self (.head hvia hreach) hbad
    · exact .fails (List.mem_cons_of_mem _ hvia) hreach hbad

end Followed

/-- **Following links is a depth-first search**: it loads what the search meets, and fails only
at a document that can be reached and cannot be loaded. -/
lemma followLinks_explores (hgrammar : Script.Language.FallsOnBoundaries)
    {remaining : Files} (a : Analysis) (pending : List Link)
    {seen : Set String} (hseen : Unseen files remaining seen) :
    Followed files seen (pending.filterMap (target? files)) a
      (followLinks files remaining a pending) := by
  fun_induction followLinks files remaining a pending generalizing seen with
  | case1 remaining a => exact .loads (.done seen) (.nothing a)
  | case2 remaining a l rest htarget ih =>
    have hnone : target? files l = none := by rw [target?, htarget]
    rw [List.filterMap_cons_none hnone]
    exact (ih hseen).of_warn
  | case3 remaining a l rest htarget ih =>
    have hnone : target? files l = none := by rw [target?, htarget]
    rw [List.filterMap_cons_none hnone]
    exact (ih hseen).of_warn
  | case4 remaining a l rest path b htarget hany ih =>
    have hsome : target? files l = some path := by rw [target?, htarget]
    have hb := content?_of_target htarget
    have hnew : path ∉ seen := (hseen path (by simp [hb])).1 hany
    rw [List.filterMap_cons_some hsome]
    by_cases hloadable : Loadable files path
    · obtain ⟨a₁, d, hload, hd, hone⟩ := Loads.one hgrammar hb hloadable a
      have hrest := ih a₁ d (hseen.without path)
      rw [List.filterMap_append, ← imports_eq hd] at hrest
      rw [hload]
      exact hrest.first hnew hone
    · obtain ⟨e, hload⟩ := loadDocument_error hgrammar hb hloadable a
      rw [hload]
      exact .fails List.mem_cons_self .refl hloadable
  | case5 remaining a l rest path b htarget hany ih =>
    have hsome : target? files l = some path := by rw [target?, htarget]
    have hb := content?_of_target htarget
    have hold : path ∈ seen := by
      by_contra hnew
      exact hany ((hseen path (by simp [hb])).2 hnew)
    rw [List.filterMap_cons_some hsome]
    exact (ih hseen).again hold

/-! ### Entries -/

/-- With imports, an entry gives what a search from it meets, or fails at a document that it
reaches and that cannot be loaded. -/
lemma ofEntry_explores (hgrammar : Script.Language.FallsOnBoundaries)
    {entry start : String} (hstart : Path.normalize entry = start)
    (hb : content? files start = some b) :
    (∃ a below, ofEntry files true entry = .ok a ∧
      Explores (imports files) {start} (imports files start) below ∧
      Loads files (start :: below) {} a) ∨
    (∃ e, ofEntry files true entry = .error e) ∧
      ∃ href, Reaches files start href ∧ ¬Loadable files href := by
  simp only [ofEntry, hstart, hb]
  by_cases hloadable : Loadable files start
  · obtain ⟨a₁, d, hload, hd, hone⟩ := Loads.one hgrammar hb hloadable {}
    have hfollow := followLinks_explores hgrammar a₁ (links d) (unseen_start files start)
    rw [← imports_eq hd] at hfollow
    simp only [hload, bind, Except.bind, if_true]
    generalize followLinks files (without start files) a₁ (links d) = result at hfollow ⊢
    cases hfollow with
    | loads hexplores hloads => exact Or.inl ⟨_, _, rfl, hexplores, hone.trans hloads⟩
    | fails hvia hreach hbad => exact Or.inr ⟨⟨_, rfl⟩, _, .head hvia hreach, hbad⟩
  · obtain ⟨e, hload⟩ := loadDocument_error hgrammar hb hloadable {}
    rw [hload]
    exact Or.inr ⟨⟨e, rfl⟩, start, .refl, hloadable⟩

/-- Without imports, an entry gives its own document. -/
lemma ofEntry_alone (hgrammar : Script.Language.FallsOnBoundaries)
    {entry start : String} (hstart : Path.normalize entry = start)
    (hb : content? files start = some b) :
    (∃ a, ofEntry files false entry = .ok a ∧ Loads files [start] {} a) ∨
    (∃ e, ofEntry files false entry = .error e) ∧ ¬Loadable files start := by
  simp only [ofEntry, hstart, hb]
  by_cases hloadable : Loadable files start
  · obtain ⟨a₁, d, hload, -, hone⟩ := Loads.one hgrammar hb hloadable {}
    rw [hload]
    exact Or.inl ⟨a₁, rfl, hone⟩
  · obtain ⟨e, hload⟩ := loadDocument_error hgrammar hb hloadable {}
    rw [hload]
    exact Or.inr ⟨⟨e, rfl⟩, hloadable⟩

/-- Exactly the documents of some files have been loaded, in their order, and the scripts of each
of them once. -/
structure Holds (files : Files) (order : List String) (a : Analysis) : Prop where
  hrefs : a.documents.map (·.href) = order
  documents : ∀ d ∈ a.documents, document? files d.href = some d
  scripts : a.scripts = gather (a.documents.flatMap (scriptsOf files)) []

lemma Loads.holds {order : List String} (h : Loads files order {} a) : Holds files order a := by
  obtain ⟨ds, hds, hadds⟩ := h.adds
  have hdocuments : a.documents = ds := hadds.documents
  refine ⟨?_, ?_, ?_⟩
  · rw [hdocuments, hrefs_of_documents hds]
  · intro d hd
    rw [hdocuments] at hd
    have hmem : some d ∈ order.map (document? files) := hds ▸ List.mem_map_of_mem hd
    obtain ⟨href, -, hhref⟩ := List.mem_map.1 hmem
    rwa [document?_href hhref]
  · rw [hadds.scripts, hdocuments]

/-! ### What a result holds -/

lemma isSome_of_ofEntry {follow : Bool} {entry : String} (h : ofEntry files follow entry = .ok a) :
    (content? files (Path.normalize entry)).isSome := by
  cases hb : content? files (Path.normalize entry) with
  | some b => rfl
  | none =>
    simp only [ofEntry, hb] at h
    cases h

lemma ofEntry_follows (hgrammar : Script.Language.FallsOnBoundaries)
    {entry : String} (h : ofEntry files true entry = .ok a) :
    ∃ below, Explores (imports files) {Path.normalize entry}
        (imports files (Path.normalize entry)) below ∧
      Loads files (Path.normalize entry :: below) {} a := by
  obtain ⟨b, hb⟩ := Option.isSome_iff_exists.1 (isSome_of_ofEntry h)
  rcases ofEntry_explores hgrammar rfl hb with ⟨a', below, ha', hexplores, hloads⟩ | ⟨⟨e, he⟩, -⟩
  · cases h.symm.trans ha'
    exact ⟨below, hexplores, hloads⟩
  · cases h.symm.trans he

lemma ofEntry_stays (hgrammar : Script.Language.FallsOnBoundaries)
    {entry : String} (h : ofEntry files false entry = .ok a) :
    Loads files [Path.normalize entry] {} a := by
  obtain ⟨b, hb⟩ := Option.isSome_iff_exists.1 (isSome_of_ofEntry h)
  rcases ofEntry_alone hgrammar rfl hb with ⟨a', ha', hloads⟩ | ⟨⟨e, he⟩, -⟩
  · cases h.symm.trans ha'
    exact hloads
  · cases h.symm.trans he

/-- With or without imports, a result holds some documents once each. -/
lemma ofEntry_holds (hgrammar : Script.Language.FallsOnBoundaries)
    {follow : Bool} {entry : String} (h : ofEntry files follow entry = .ok a) :
    ∃ order : List String, order.Nodup ∧ Holds files order a := by
  cases follow with
  | true =>
    obtain ⟨below, hexplores, hloads⟩ := ofEntry_follows hgrammar h
    exact ⟨_, hexplores.nodup_from, hloads.holds⟩
  | false => exact ⟨_, List.nodup_singleton _, (ofEntry_stays hgrammar h).holds⟩

/-- **Gathering loads, in depth-first order and each once, exactly the documents that the entry
reaches through imports**, together with the scripts of each of them, before those of the
documents it is the first to import. It gives a result exactly when all of these documents can be
loaded; where all files hold text, one that cannot has the opening of a marked section in it, or a
decimal reference with too many digits. Without imports, the entry alone is loaded. -/
theorem ofEntry_in_import_order (hgrammar : Script.Language.FallsOnBoundaries) (files : Files)
    (entry : String) (hentry : (content? files (Path.normalize entry)).isSome) :
    let start := Path.normalize entry
    ((∃ a, ofEntry files true entry = .ok a) ↔
      ∀ href, Reaches files start href → Loadable files href) ∧
    (∀ a, ofEntry files true entry = .ok a → ∃ below,
      Explores (imports files) {start} (imports files start) below ∧
      (start :: below).Nodup ∧ (∀ href, href ∈ start :: below ↔ Reaches files start href) ∧
      Holds files (start :: below) a) ∧
    ((∃ a, ofEntry files false entry = .ok a) ↔ Loadable files start) ∧
    (∀ a, ofEntry files false entry = .ok a → Holds files [start] a) ∧
    ((∀ f ∈ files, (Workspace.decode? f.2).isSome) →
      ∀ href b text, content? files href = some b → Workspace.decode? b = some text →
        ¬Loadable files href →
          ['<', '!', '['] <:+: text.toList ∨ Markup.HasLongReference text.toList) := by
  obtain ⟨b, hb⟩ := Option.isSome_iff_exists.1 hentry
  intro start
  refine ⟨⟨?_, ?_⟩, ?_, ⟨?_, ?_⟩, fun a ha => (ofEntry_stays hgrammar ha).holds, ?_⟩
  · rintro ⟨a, ha⟩ href hreach
    obtain ⟨below, hexplores, hloads⟩ := ofEntry_follows hgrammar ha
    exact hloads.loadable href ((hexplores.mem_iff_reaches href).2 hreach)
  · intro hloadable
    rcases ofEntry_explores hgrammar rfl hb with ⟨a, below, ha, -⟩ | ⟨-, href, hreach, hbad⟩
    · exact ⟨a, ha⟩
    · exact absurd (hloadable href hreach) hbad
  · intro a ha
    obtain ⟨below, hexplores, hloads⟩ := ofEntry_follows hgrammar ha
    exact ⟨below, hexplores, hexplores.nodup_from, hexplores.mem_iff_reaches, hloads.holds⟩
  · rintro ⟨a, ha⟩
    exact (ofEntry_stays hgrammar ha).loadable start List.mem_cons_self
  · intro hloadable
    rcases ofEntry_alone hgrammar rfl hb with ⟨a, ha, -⟩ | ⟨-, hbad⟩
    · exact ⟨a, ha⟩
    · exact absurd hloadable hbad
  · intro hall href b text hb hdecode hbad
    by_contra hplain
    rw [not_or] at hplain
    exact hbad (loadable_of_plain hall text hb hdecode ⟨hplain.1, hplain.2⟩)

end

def circleEntry : String := "<link rel=import href=b.html><link rel=import href=a.html>"

def circleOther : String := "<script>f()</script><link rel=Import href=a.html>"

/-- Two documents that import each other, one of them also itself. -/
def circle : Files := [("a.html", circleEntry.toUTF8), ("b.html", circleOther.toUTF8)]

/-- A grammar that knows the call in one of them. -/
abbrev circleGrammar : Script.Language :=
  .ofTrees ["program", "expression_statement", "call_expression", "identifier", "arguments"]
    [("f()", .mk "program" 0 3 none true
      [.mk "expression_statement" 0 3 none true
        [.mk "call_expression" 0 3 none true
          [.mk "identifier" 0 1 (some "function") true [],
           .mk "arguments" 1 3 (some "arguments") true
            [.mk "(" 1 2 none false [], .mk ")" 2 3 none false []]]]])]

lemma imports_circle : imports circle "a.html" = ["b.html", "a.html"] ∧
    imports circle "b.html" = ["a.html"] := by
  decide +kernel

lemma loadable_of_reaches_circle {href : String} (h : Reaches circle "a.html" href) :
    Loadable circle href := by
  have hmem : href = "a.html" ∨ href = "b.html" := by
    induction h with
    | refl => exact Or.inl rfl
    | tail _ hstep ih =>
      rcases ih with rfl | rfl
      · rw [imports_circle.1] at hstep
        simpa [or_comm] using hstep
      · rw [imports_circle.2] at hstep
        exact Or.inl (by simpa using hstep)
  have htext : ∀ f ∈ circle, (Workspace.decode? f.2).isSome := by decide +kernel
  rcases hmem with rfl | rfl
  · exact loadable_of_plain htext circleEntry rfl (by decide +kernel)
      (Markup.isPlain_of_not_mem (by decide +kernel) (by decide +kernel))
  · exact loadable_of_plain htext circleOther rfl (by decide +kernel)
      (Markup.isPlain_of_not_mem (by decide +kernel) (by decide +kernel))

theorem ofEntry_circle : letI := circleGrammar
    Script.Language.FallsOnBoundaries ∧
    (content? circle (Path.normalize "a.html")).isSome ∧
    ∃ a, ofEntry circle true "a.html" = .ok a ∧
      a.documents.map (·.href) = ["a.html", "b.html"] := by
  let _ := circleGrammar
  have hgrammar : Script.Language.FallsOnBoundaries :=
    Script.Language.fallsOnBoundaries_ofTrees (by decide)
  have hentry : (content? circle (Path.normalize "a.html")).isSome := by decide +kernel
  have hstart : Path.normalize "a.html" = "a.html" := by decide +kernel
  obtain ⟨hresult, horder, -⟩ := ofEntry_in_import_order hgrammar circle "a.html" hentry
  rw [hstart] at hresult horder
  obtain ⟨a, ha⟩ := hresult.2 fun href hreach => loadable_of_reaches_circle hreach
  obtain ⟨below, hexplores, -, -, hholds⟩ := horder a ha
  have hbelow : Explores (imports circle) (insert "b.html" {"a.html"}) (imports circle "b.html")
      [] := by
    rw [imports_circle.2]
    exact .again (by simp) (.done _)
  have hexpected : Explores (imports circle) {"a.html"} (imports circle "a.html") ["b.html"] := by
    rw [imports_circle.1]
    exact .first (by simp) hbelow (.again (by simp) (.done _))
  rw [hexplores.unique hexpected] at hholds
  exact ⟨hgrammar, hentry, a, ha, hholds.hrefs⟩

/-- A document with a marked section of no known kind. -/
def markedSection : Files := [("index.html", "<p>a</p><![x[b]]>".toUTF8)]

/-- The file holds text, and the entry is one of the files, but there is no result. -/
theorem ofEntry_markedSection : letI := Script.Language.ofTrees [] []
    (∀ f ∈ markedSection, (Workspace.decode? f.2).isSome) ∧
    (content? markedSection (Path.normalize "index.html")).isSome ∧
    ∀ a, ofEntry markedSection true "index.html" ≠ .ok a := by
  let _ := Script.Language.ofTrees [] []
  have hnone : (ofEntry markedSection true "index.html").toOption.isNone = true := by
    decide +kernel
  refine ⟨by decide +kernel, by decide +kernel, ?_⟩
  intro a ha
  rw [ha] at hnone
  cases hnone

end ComponentLint.Analysis
