import ComponentLint.Proofs.WalkingBack
import ComponentLint.Rule.DomModules

/-!
The modules of a component.

That a component has one `dom-module` is seen in all documents, and that it stands before the script
by walking back in the document of the script. Both look for an element whose first `id` is the tag
name, so what the walk back finds is the one module or nothing, and the findings for a component can
be told from the list of its modules and the document order alone.
-/

namespace ComponentLint.Rule.DomModules

open Markup (Document Place)

/-! ### Modules -/

/-- A `dom-module` whose first `id` attribute has the value. -/
def IsModuleOf (id : String) (p : Place) : Prop :=
  p.item.tag? = some "dom-module" ∧
    ∃ earlier later, p.item.attributes = earlier ++ ⟨"id", some id⟩ :: later ∧
      ∀ a ∈ earlier, a.name ≠ "id"

/-- The modules of an id: those of each document in document order, document by document. -/
def AreModules (m : Model) (id : String) (modules : List Place) : Prop :=
  ∃ groups, modules = groups.flatten ∧
    List.Forall₂ (fun doc group => group.Pairwise Place.Before ∧
      ∀ p, p ∈ group ↔ p ∈ (Place.root doc).walk ∧ IsModuleOf id p) m.documents groups

lemma attributeValue?_eq_some {p : Place} {name value : String} :
    p.attributeValue? name = some value ↔
      ∃ earlier later, p.item.attributes = earlier ++ ⟨name, some value⟩ :: later ∧
        ∀ a ∈ earlier, a.name ≠ name := by
  rw [Place.attributeValue?, Place.attribute?, Option.bind_eq_some_iff]
  simp only [List.find?_eq_some_iff_append, beq_iff_eq, Bool.not_eq_true', beq_eq_false_iff_ne]
  constructor
  · rintro ⟨⟨name', value'⟩, ⟨rfl, earlier, later, hsplit, hearlier⟩, rfl⟩
    exact ⟨earlier, later, hsplit, hearlier⟩
  · rintro ⟨earlier, later, hsplit, hearlier⟩
    exact ⟨_, ⟨rfl, earlier, later, hsplit, hearlier⟩, rfl⟩

lemma isDomModule_iff {id : String} {p : Place} : Model.isDomModule id p ↔ IsModuleOf id p := by
  rw [Model.isDomModule, Bool.and_eq_true, Place.hasTag, beq_iff_eq, beq_iff_eq,
    attributeValue?_eq_some]
  rfl

/-- The script looks for what is registered under the tag name. -/
lemma isModuleOf_iff {c : Component} {p : Place} : isModuleOf c p ↔ IsModuleOf c.tagName p := by
  rw [← isDomModule_iff, isModuleOf, Model.isDomModule, Place.hasTag, Place.hasAttributeValue]
  simp only [Bool.and_eq_true, beq_iff_eq]
  constructor
  · rintro ⟨htag, -, hvalue⟩
    exact ⟨htag, hvalue⟩
  · rintro ⟨htag, hvalue⟩
    exact ⟨htag, by rw [htag]; rfl, hvalue⟩

lemma areModules_domModules (m : Model) (id : String) : AreModules m id (m.domModules id) := by
  refine ⟨m.documents.map fun doc => (Place.root doc).walkAll (Model.isDomModule id), ?_, ?_⟩
  · rw [Model.domModules, Model.walkAll, List.flatMap_def]
  · rw [List.forall₂_map_right_iff, List.forall₂_same]
    refine fun doc _ => ⟨(Place.pairwise_walk _).filter _, fun p => ?_⟩
    rw [Place.walkAll, List.mem_filter, isDomModule_iff]

lemma mem_domModules_iff {m : Model} {id : String} {p : Place} : p ∈ m.domModules id ↔
    ∃ doc ∈ m.documents, p ∈ (Place.root doc).walk ∧ IsModuleOf id p := by
  rw [Model.domModules, Model.walkAll, List.mem_flatMap]
  simp only [Place.walkAll, List.mem_filter, isDomModule_iff]

/-! ### Before the script -/

/-- A place stands before another in the walk of a document; so does what is above it. -/
def Precedes (doc : Document) (p q : Place) : Prop :=
  ∃ before after, (Place.root doc).walk = before ++ q :: after ∧ p ∈ before

lemma precedes_iff_mem_earlier {doc : Document} {p q : Place} (hq : q ∈ (Place.root doc).walk) :
    Precedes doc p q ↔ p ∈ q.earlier := by
  obtain ⟨later, hwalk, hearlier, hlater⟩ :=
    Place.exists_walk_split (show (Place.root doc).above = [] from rfl) (Place.mem_walk_iff.1 hq)
  constructor
  · rintro ⟨before, after, hsplit, hp⟩
    obtain ⟨rfl, -⟩ := (List.append_cons_inj_of_notMem hearlier hlater).1 (hwalk.symm.trans hsplit)
    exact hp
  · exact fun hp => ⟨_, _, hwalk, hp⟩

lemma isSome_walkPrior_iff {doc : Document} {q : Place} (hq : q ∈ (Place.root doc).walk)
    (test : Place → Bool) : (q.walkPrior test).isSome ↔ ∃ p, Precedes doc p q ∧ test p := by
  rw [Place.walkPrior_eq_earlier, List.getLast?_isSome, Ne, List.filter_eq_nil_iff]
  simp [precedes_iff_mem_earlier hq]

/-! ### The findings for a component -/

/-- The script of a component stands in a document, and the module not before it. -/
def IsMisplaced (m : Model) (c : Component) (p : Place) : Prop :=
  ∃ script doc, c.script = some script ∧ doc ∈ m.documents ∧ script ∈ (Place.root doc).walk ∧
    ¬Precedes doc p script

def repeatedAt (c : Component) (p : Place) : Diagnostic :=
  atPlace id p s!"dom-module has a repeated value for id {c.tagName}."

def misplacedAt (c : Component) (p : Place) : Diagnostic :=
  atPlace id p s!"dom-module for {c.tagName} should be a parent of it or earlier in the document."

/-- The walk back from the script of a document finds the only module of a tag, or nothing. -/
lemma isSome_walkPrior_of_single {m : Model} {c : Component} {d script : Place} {doc : Document}
    (hsingle : m.domModules c.tagName = [d]) (hdoc : doc ∈ m.documents)
    (hscript : script ∈ (Place.root doc).walk) :
    (script.walkPrior (isModuleOf c)).isSome ↔ Precedes doc d script := by
  rw [isSome_walkPrior_iff hscript]
  constructor
  · rintro ⟨p, hprecedes, hmodule⟩
    obtain ⟨before, after, hwalk, hp⟩ := hprecedes
    have hmem : p ∈ m.domModules c.tagName := mem_domModules_iff.2
      ⟨doc, hdoc, by rw [hwalk]; exact List.mem_append_left _ hp, isModuleOf_iff.1 hmodule⟩
    rw [hsingle, List.mem_singleton] at hmem
    exact hmem ▸ ⟨before, after, hwalk, hp⟩
  · intro hprecedes
    have hd : d ∈ m.domModules c.tagName := by rw [hsingle]; exact List.mem_singleton_self d
    obtain ⟨-, -, -, hmodule⟩ := mem_domModules_iff.1 hd
    exact ⟨d, hprecedes, isModuleOf_iff.2 hmodule⟩

section Findings

variable {m : Model} {c : Component}

lemma checkComponent_of_single (hbase : c.tagName ≠ baseComponent) {d : Place}
    (hsingle : m.domModules c.tagName = [d])
    (hscript : ∀ s, c.script = some s → ∃ doc ∈ m.documents, s ∈ (Place.root doc).walk) :
    checkComponent m c = [misplacedAt c d] ∧ IsMisplaced m c d ∨
      checkComponent m c = [] ∧ ¬IsMisplaced m c d := by
  rw [checkComponent, if_neg hbase, hsingle]
  dsimp only
  cases hs : c.script with
  | none =>
    refine Or.inr ⟨rfl, ?_⟩
    rintro ⟨s, -, hsome, -⟩
    rw [hs] at hsome
    cases hsome
  | some script =>
    obtain ⟨doc, hdoc, hwalk⟩ := hscript script hs
    have hfound := isSome_walkPrior_of_single hsingle hdoc hwalk
    dsimp only
    by_cases hprecedes : Precedes doc d script
    · rw [if_pos (hfound.2 hprecedes)]
      refine Or.inr ⟨rfl, ?_⟩
      rintro ⟨s, doc', hsome, hdoc', hwalk', hnot⟩
      cases hs.symm.trans hsome
      have hfound' := isSome_walkPrior_of_single hsingle hdoc' hwalk'
      exact hnot (hfound'.1 (hfound.2 hprecedes))
    · rw [if_neg (mt hfound.1 hprecedes)]
      exact Or.inl ⟨rfl, script, doc, hs, hdoc, hwalk, hprecedes⟩

lemma checkComponent_of_several (hbase : c.tagName ≠ baseComponent)
    (hseveral : 2 ≤ (m.domModules c.tagName).length) :
    checkComponent m c = (m.domModules c.tagName).map (repeatedAt c) := by
  rw [checkComponent, if_neg hbase]
  match h : m.domModules c.tagName with
  | [] => simp [h] at hseveral
  | [d] => simp [h] at hseveral
  | d :: d' :: rest => rfl

lemma checkComponent_of_none (hnone : m.domModules c.tagName = []) : checkComponent m c = [] := by
  rw [checkComponent, hnone]
  split_ifs <;> rfl

end Findings

/-- **What is found for a component is told by its modules.** None, and nothing is found; several,
and each is reported as a repetition, in order; one, and it is reported exactly if the component has
a script and the module does not stand before the script in the walk of its document. -/
theorem check_by_modules (m : Model) (c : Component) (before after : List Component)
    (hcomponents : m.components = before ++ c :: after) (hbase : c.tagName ≠ baseComponent)
    (hscript : ∀ s, c.script = some s → ∃ doc ∈ m.documents, s ∈ (Place.root doc).walk) :
    check m = check { m with components := before } ++ checkComponent m c ++
      check { m with components := after } ∧
    AreModules m c.tagName (m.domModules c.tagName) ∧
    (m.domModules c.tagName = [] → checkComponent m c = []) ∧
    (2 ≤ (m.domModules c.tagName).length →
      checkComponent m c = (m.domModules c.tagName).map (repeatedAt c)) ∧
    ∀ d, m.domModules c.tagName = [d] →
      checkComponent m c = [misplacedAt c d] ∧ IsMisplaced m c d ∨
        checkComponent m c = [] ∧ ¬IsMisplaced m c d := by
  refine ⟨?_, areModules_domModules m c.tagName, checkComponent_of_none,
    checkComponent_of_several hbase, fun d hd => checkComponent_of_single hbase hd hscript⟩
  rw [check, hcomponents, List.flatMap_append, List.flatMap_cons, List.append_assoc]
  rfl

/-! ### A script before its module -/

/-- A script, a `dom-module` whose first `id` has no value, and one nested in an element. -/
def lateDocument : Document where
  href := "x-late.html"
  children :=
    [.element ⟨1, 0⟩ "script" [] [],
     .element ⟨1, 17⟩ "dom-module" [⟨"id", none⟩, ⟨"id", some "x-late"⟩] [],
     .element ⟨1, 60⟩ "div" [] [.element ⟨1, 65⟩ "dom-module" [⟨"id", some "x-late"⟩] []]]

def lateScript : Place :=
  ⟨"x-late.html", .node (.element ⟨1, 0⟩ "script" [] []), [(.document lateDocument, 0)]⟩

def lateComponent : Component where
  tagName := "x-late"
  script := some lateScript

def lateModel : Model := ⟨[lateComponent], [lateDocument]⟩

/-- The nested module is the only one, and it is reported since the script stands before it. -/
theorem check_lateModel :
    lateComponent.tagName ≠ baseComponent ∧
    (∀ s, lateComponent.script = some s →
      ∃ doc ∈ lateModel.documents, s ∈ (Place.root doc).walk) ∧
    ∃ d, d.location = ⟨1, 65⟩ ∧ lateModel.domModules "x-late" = [d] ∧
      IsMisplaced lateModel lateComponent d ∧
      check lateModel = [misplacedAt lateComponent d] := by
  have hbase : lateComponent.tagName ≠ baseComponent := by decide
  have hscript : ∀ s, lateComponent.script = some s →
      ∃ doc ∈ lateModel.documents, s ∈ (Place.root doc).walk := by
    rintro s ⟨⟩
    exact ⟨lateDocument, List.mem_singleton_self _,
      Place.mem_walk_iff.2 (.child .self (.head _))⟩
  obtain ⟨hcheck, -, -, -, hone⟩ :=
    check_by_modules lateModel lateComponent [] [] rfl hbase hscript
  have hlocations : (lateModel.domModules "x-late").map (·.location) = [⟨1, 65⟩] := by
    decide +kernel
  obtain ⟨d, hd, hlocation⟩ := List.map_eq_singleton_iff.1 hlocations
  have hreported : checkComponent lateModel lateComponent ≠ [] := by decide +kernel
  obtain ⟨hfindings, hmisplaced⟩ := (hone d hd).resolve_right fun h => hreported h.1
  refine ⟨hbase, hscript, d, hlocation, hd, hmisplaced, ?_⟩
  rw [hcheck, hfindings]
  rfl

end ComponentLint.Rule.DomModules
