import ComponentLint.Proofs.AttributeEdits
import ComponentLint.Proofs.ImplicitKeys
import ComponentLint.Rule.Registry

/-!
Following the advice on native attributes.

A binding to a native or accessibility attribute is reported until the name of the attribute is
marked. Marking some of these names takes their reports away and adds none: no other rule looks at
the name, apart from the reports that quote it and the keys that a native binding makes implicit.
-/

namespace ComponentLint

open Markup (Attribute Place)

/-! ### Names that are marked -/

namespace Binding

lemma isMarked_append (name : String) : isMarked (name ++ "$") := by
  have hlist : (name ++ "$").toList = name.toList ++ ['$'] := String.toList_append
  rw [isMarked, hlist, List.getLast?_concat]
  rfl

lemma exists_lowerFrom_concat (before s : List Char) :
    ∃ t, Text.lowerFrom before (s ++ ['$']) = t ++ ['$'] := by
  induction s generalizing before with
  | nil => exact ⟨[], rfl⟩
  | cons c s ih =>
    obtain ⟨t, ht⟩ := ih (c :: before)
    refine ⟨Text.lowerBetween before c (s ++ ['$']) ++ t, ?_⟩
    rw [List.cons_append, Text.lowerFrom, ht, List.append_assoc]

/-- No accessibility attribute has a mark, in any letter case. -/
lemma isAccessibility_of_isMarked {name : String} (h : isMarked name) :
    isAccessibility name = false := by
  have hplain : ∀ plain ∈ accessibilityAttributes, plain.toList.getLast? ≠ some '$' := by
    decide +kernel
  rw [isMarked, beq_iff_eq] at h
  have hlow : (lowerName name).toList.getLast? = some '$' := by
    have hsplit := List.dropLast_append_getLast? _ h
    obtain ⟨t, ht⟩ := exists_lowerFrom_concat [] name.toList.dropLast
    rw [lowerName, String.toList_ofList, ← hsplit, Text.lower, ht, List.getLast?_concat]
  rw [isAccessibility, ← Bool.not_eq_true, List.contains_iff_mem]
  exact fun hmem => hplain _ hmem hlow

lemma isProblematic_of_isMarked {name : String} (h : isMarked name) (tag : Option String) :
    isProblematic name tag = false := by
  rw [isProblematic, if_pos h]

end Binding

open Binding

/-! ### The advice -/

/-- The name of an attribute is to be marked. -/
def isAdvised (tag : Option String) (a : Attribute) : Bool :=
  tag ≠ some "dom-module" && (isProblematic a.name tag || isAccessibility a.name)

/-- Marks the chosen attributes, as far as this is advised. -/
def Edit.follow (chosen : Spot → Bool) : Edit where
  apply spot tag a :=
    if chosen spot && isAdvised tag a then { a with name := a.name ++ "$" } else a
  apply_module spot a := by simp [isAdvised]

namespace Placed

/-- The attribute is chosen and its name is to be marked. -/
def isFollowed (chosen : Spot → Bool) (s : Placed) : Bool := chosen s.spot && isAdvised s.tag s.attr

def nameAfter (chosen : Spot → Bool) (s : Placed) : String :=
  if s.isFollowed chosen then s.attr.name ++ "$" else s.attr.name

/-- The binding of an attribute. -/
def occurrence? (s : Placed) : Option Occurrence :=
  match s.attr.value with
  | none => none
  | some value =>
    if value ≠ "" ∧ isBound value then
      some
        { expression := value
          place := s.place
          parsed := Expression.parse value
          attributeName := some s.attr.name
          native := isNativeBinding s.attr.name }
    else none

end Placed

lemma attributeBindings_eq_placed (m : Model) (id : String) :
    attributeBindings m id = (placed m id).filterMap Placed.occurrence? := by
  rw [attributeBindings, attributes_eq_placed, List.filterMap_map]
  rfl

section Follow

variable {chosen : Spot → Bool} {s : Placed} {o : Occurrence}

lemma attr_follow (chosen : Spot → Bool) (s : Placed) :
    ((Edit.follow chosen).placed s).attr = { s.attr with name := s.nameAfter chosen } := by
  have hattr : ((Edit.follow chosen).placed s).attr =
      if s.isFollowed chosen then { s.attr with name := s.attr.name ++ "$" } else s.attr := rfl
  rw [hattr, Placed.nameAfter]
  split_ifs <;> rfl

/-- The binding of an attribute keeps its expression. -/
lemma occurrence?_follow (chosen : Spot → Bool) (s : Placed) :
    ((Edit.follow chosen).placed s).occurrence? = s.occurrence?.map fun o =>
      { o with
        place := (Edit.follow chosen).place o.place
        attributeName := some (s.nameAfter chosen)
        native := isNativeBinding (s.nameAfter chosen) } := by
  rw [Placed.occurrence?, attr_follow, Placed.occurrence?]
  cases s.attr.value with
  | none => rfl
  | some value =>
    dsimp only
    split_ifs <;> rfl

lemma eq_of_occurrence? (h : s.occurrence? = some o) :
    o.place = s.place ∧ o.attributeName = some s.attr.name ∧
      o.native = isNativeBinding s.attr.name := by
  rw [Placed.occurrence?] at h
  split at h
  · cases h
  · split_ifs at h
    cases h
    exact ⟨rfl, rfl, rfl⟩

/-- A name to be marked has no mark yet. -/
lemma isMarked_of_isFollowed (h : s.isFollowed chosen) : isMarked s.attr.name = false := by
  rw [← Bool.not_eq_true]
  intro hmarked
  simp [Placed.isFollowed, isAdvised, isProblematic_of_isMarked hmarked,
    isAccessibility_of_isMarked hmarked] at h

end Follow

/-! ### Reports in an edited model -/

namespace Rule

/-- The components that are looked at for bindings. -/
def named (m : Model) : List Component := m.components.filter (·.tagName ≠ "")

section Edits

variable (e : Edit)

lemma named_model (m : Model) : named (e.model m) = (named m).map e.component := by
  rw [named, Edit.model, List.filter_map]
  rfl

@[simp] lemma atPlace_place (id : String) (p : Place) : atPlace id (e.place p) = atPlace id p := by
  funext message
  rw [atPlace, e.href_place, e.location_place, atPlace]

@[simp] lemma atPosition_component (id : String) (position : Option Position) (c : Component) :
    atPosition id position (e.component c) = atPosition id position c := by
  obtain ⟨tag, properties, observers, script, href, start⟩ := c
  funext message
  cases position with
  | some position => rfl
  | none =>
    cases script with
    | none => rfl
    | some script => exact congrFun (atPlace_place e id script) message

@[simp] lemma textAt_place (p : Place) : textAt (e.place p) = textAt p := by
  rw [textAt, e.text?_place, textAt]

lemma textBindings_model (m : Model) (id : String) : textBindings (e.model m) id =
    (textBindings m id).map fun o => { o with place := e.place o.place } := by
  rw [textBindings, e.textNodes_model, List.filterMap_map, textBindings, List.map_filterMap]
  refine List.filterMap_congr fun p _ => ?_
  simp only [Function.comp_apply, textAt_place]
  split_ifs <;> rfl

/-- A rule that looks at no attributes, or at those of modules alone, reports the same. -/
lemma observers_check_model (m : Model) : Observers.check (e.model m) = Observers.check m := by
  rw [Observers.check, Edit.model, List.flatMap_map, Observers.check]
  refine List.flatMap_congr fun c _ => List.filterMap_congr fun p _ => ?_
  simp only [Observers.checkProperty, atPosition_component]
  rfl

lemma undefinedElements_check_model (m : Model) :
    UndefinedElements.check (e.model m) = UndefinedElements.check m := by
  have htest : ∀ p, UndefinedElements.isCustomElement (e.place p) =
      UndefinedElements.isCustomElement p := by
    intro p
    rw [UndefinedElements.isCustomElement, e.tag?_place, UndefinedElements.isCustomElement]
  rw [UndefinedElements.check, e.walkAll_model htest, List.filterMap_map, UndefinedElements.check]
  refine List.filterMap_congr fun p _ => ?_
  simp only [Function.comp_apply, UndefinedElements.isUndefined, e.tag?_place, e.isDefined_model,
    atPlace_place]
  rfl

lemma domModules_checkComponent_model (m : Model) (c : Component) :
    DomModules.checkComponent (e.model m) (e.component c) = DomModules.checkComponent m c := by
  have htest : ∀ p, DomModules.isModuleOf c (e.place p) = DomModules.isModuleOf c p := by
    intro p
    rw [DomModules.isModuleOf, e.hasTag_place, DomModules.isModuleOf]
    cases hmodule : Place.hasTag "dom-module" p with
    | false => rfl
    | true =>
      rw [Place.hasAttributeValue, e.tag?_place, e.attributeValue?_place_of_module hmodule,
        Place.hasAttributeValue]
  have hprior : ∀ script, ((e.place script).walkPrior (DomModules.isModuleOf c)).isSome =
      (script.walkPrior (DomModules.isModuleOf c)).isSome := by
    intro script
    rw [e.walkPrior_place htest, Option.isSome_map]
  have hmodule : DomModules.isModuleOf (e.component c) = DomModules.isModuleOf c := rfl
  have hscript : (e.component c).script = c.script.map e.place := rfl
  rw [DomModules.checkComponent, e.tagName_component, hmodule, hscript, e.domModules_model,
    DomModules.checkComponent]
  split_ifs
  · rfl
  match m.domModules c.tagName with
  | [] => rfl
  | [single] =>
    cases c.script with
    | none => rfl
    | some script => simp only [List.map_cons, List.map_nil, Option.map_some, hprior, atPlace_place]
  | first :: second :: rest =>
    simp only [List.map_cons, atPlace_place, List.map_map, Function.comp_def]

lemma domModules_check_model (m : Model) : DomModules.check (e.model m) = DomModules.check m := by
  rw [DomModules.check, Edit.model, List.flatMap_map, DomModules.check]
  exact List.flatMap_congr fun c _ => domModules_checkComponent_model e m c

end Edits

/-! ### The reports of native attributes -/

namespace NativeAttributes

variable {chosen : Spot → Bool} {s : Placed} {o : Occurrence}

/-- The report of an attribute. -/
def finding? (s : Placed) : Option Diagnostic :=
  (s.occurrence?.filter isFlagged).map fun o => atPlace id o.place (message o)

lemma checkComponent_eq_placed (m : Model) (c : Component) :
    checkComponent m c = (placed m c.tagName).filterMap finding? := by
  rw [checkComponent, attributeBindings_eq_placed, List.filter_filterMap, List.map_filterMap]
  rfl

lemma message_congr {o' : Occurrence} (hexpression : o.expression = o'.expression)
    (hname : o.attributeName = o'.attributeName) : message o = message o' := by
  obtain ⟨expression, place, parsed, name, native⟩ := o
  obtain ⟨expression', place', parsed', name', native'⟩ := o'
  cases hexpression
  cases hname
  rfl

lemma finding?_eq (s : Placed) : finding? s =
    if isProblematic s.attr.name s.tag || isAccessibility s.attr.name then
      s.occurrence?.map fun o => atPlace id s.place (message o)
    else none := by
  rw [finding?]
  cases ho : s.occurrence? with
  | none => split_ifs <;> rfl
  | some o =>
    obtain ⟨hplace, hname, -⟩ := eq_of_occurrence? ho
    have hflagged : isFlagged o =
        (isProblematic s.attr.name s.tag || isAccessibility s.attr.name) := by
      rw [isFlagged, hplace, hname]
      rfl
    rw [Option.filter_some, hflagged]
    split_ifs
    · rw [Option.map_some, Option.map_some, hplace]
    · rfl

/-- A binding is followed if it is chosen and reported, at an element other than a `dom-module`. -/
lemma isFollowed_iff (chosen : Spot → Bool) (s : Placed) :
    s.occurrence?.isSome ∧ s.isFollowed chosen ↔
      (finding? s).isSome ∧ chosen s.spot ∧ s.tag ≠ some "dom-module" := by
  rw [Placed.isFollowed, isAdvised, Bool.and_eq_true, Bool.and_eq_true, decide_eq_true_iff,
    finding?_eq]
  split_ifs with hflagged
  · rw [Option.isSome_map]
    tauto
  · simp [hflagged]

/-- It is not reported again. -/
lemma finding?_follow_of_isFollowed (h : s.isFollowed chosen) :
    finding? ((Edit.follow chosen).placed s) = none := by
  have hmarked : isMarked (s.nameAfter chosen) := by
    rw [Placed.nameAfter, if_pos h]
    exact isMarked_append s.attr.name
  rw [finding?_eq, attr_follow, isProblematic_of_isMarked hmarked,
    isAccessibility_of_isMarked hmarked]
  rfl

/-- The others are reported as before. -/
lemma finding?_follow_of_not (h : ¬s.isFollowed chosen) :
    finding? ((Edit.follow chosen).placed s) = finding? s := by
  have hname : s.nameAfter chosen = s.attr.name := by rw [Placed.nameAfter, if_neg h]
  have hreport : ((Edit.follow chosen).placed s).occurrence?.map (fun o =>
      atPlace id ((Edit.follow chosen).placed s).place (message o)) =
        s.occurrence?.map fun o => atPlace id s.place (message o) := by
    rw [occurrence?_follow, Option.map_map]
    refine Option.map_congr fun o ho => ?_
    obtain ⟨-, hattribute, -⟩ := eq_of_occurrence? ho
    rw [Function.comp_apply, Edit.placed, atPlace_place]
    exact congrArg _ (message_congr rfl (by rw [hname, hattribute]))
  rw [finding?_eq, hreport, attr_follow, hname, Edit.tag_placed, finding?_eq]

lemma check_eq_placed (m : Model) :
    check m = (named m).flatMap fun c => (placed m c.tagName).filterMap finding? :=
  List.flatMap_congr fun c _ => checkComponent_eq_placed m c

lemma check_follow (chosen : Spot → Bool) (m : Model) :
    check ((Edit.follow chosen).model m) = (named m).flatMap fun c =>
      ((placed m c.tagName).filter (!·.isFollowed chosen)).filterMap finding? := by
  rw [check_eq_placed, named_model, List.flatMap_map]
  refine List.flatMap_congr fun c _ => ?_
  rw [Edit.tagName_component, Edit.placed_model, List.filterMap_map, List.filterMap_filter]
  refine List.filterMap_congr fun s _ => ?_
  rw [Function.comp_apply]
  cases hfollowed : s.isFollowed chosen with
  | true => exact finding?_follow_of_isFollowed hfollowed
  | false => exact finding?_follow_of_not (by simp [hfollowed])

end NativeAttributes

end Rule

/-! ### Keys that a mark makes implicit -/

namespace Binding

/-- A binding of the same expression, and native if it was before. -/
def Occurrence.Grows (o o' : Occurrence) : Prop := o'.parsed = o.parsed ∧ (o.native → o'.native)

variable {l l' : List Occurrence}

lemma any_native_of_grows (h : List.Forall₂ Occurrence.Grows l l') :
    l.any (·.native) → l'.any (·.native) := by
  induction h with
  | nil => exact id
  | cons ho _ ih =>
    simp only [List.any_cons, Bool.or_eq_true]
    exact Or.imp ho.2 ih

/-- A key that is implicit stays so. -/
lemma isImplicit_of_grows (h : List.Forall₂ Occurrence.Grows l l') {key : String}
    (himplicit : isImplicit l key) : isImplicit l' key := by
  have huses : List.Forall₂ Occurrence.Grows (usesOf key l) (usesOf key l') :=
    List.rel_filter (fun o o' ho => by simp only [ho.1]) h
  rw [isImplicit, decide_eq_true_iff] at himplicit ⊢
  rw [← huses.length_eq]
  exact ⟨himplicit.1, himplicit.2.imp_right (any_native_of_grows huses)⟩

end Binding

/-! ### The reports of bound variables -/

namespace Rule.BoundVariables

variable {m : Model} {chosen : Spot → Bool}

/-- A report before the advice is followed, and after: that of a key at a followed attribute quotes
the new name. -/
inductive Renamed (m : Model) (chosen : Spot → Bool) : Diagnostic → Diagnostic → Prop
  | same (d : Diagnostic) : Renamed m chosen d d
  | marked {tag key : String} {s : Placed} (hs : s ∈ placed m tag)
      (hfollowed : s.isFollowed chosen) :
      Renamed m chosen (atPlace id s.place (keyMessage tag key (some s.attr.name)))
        (atPlace id s.place (keyMessage tag key (some (s.attr.name ++ "$"))))

/-- The same for an expression of a component. -/
inductive Site.Renamed (m : Model) (chosen : Spot → Bool) (tag : String) : Site → Site → Prop
  | same (s : Site) : Site.Renamed m chosen tag s s
  | marked {label : String} {parsed : Expression} {s : Placed} (hs : s ∈ placed m tag)
      (hfollowed : s.isFollowed chosen) :
      Site.Renamed m chosen tag ⟨label, some s.attr.name, parsed, atPlace id s.place⟩
        ⟨label, some (s.attr.name ++ "$"), parsed, atPlace id s.place⟩

/-- The binding of an attribute, before and after. -/
def Follows (m : Model) (chosen : Spot → Bool) (tag : String) (o o' : Occurrence) : Prop :=
  o.Grows o' ∧ Site.Renamed m chosen tag (.ofOccurrence o) (.ofOccurrence o')

lemma follows_occurrence? {tag : String} {s : Placed} (hs : s ∈ placed m tag) :
    Option.Rel (Follows m chosen tag) s.occurrence?
      ((Edit.follow chosen).placed s).occurrence? := by
  rw [occurrence?_follow]
  cases ho : s.occurrence? with
  | none => exact .none
  | some o =>
    obtain ⟨hplace, hname, hnative⟩ := eq_of_occurrence? ho
    refine .some ⟨⟨rfl, ?_⟩, ?_⟩
    · intro h
      rw [hnative] at h
      have hmarked : isMarked s.attr.name := (Bool.and_eq_true_iff.1 h).1
      have hnot : ¬s.isFollowed chosen := by
        intro hfollowed
        rw [isMarked_of_isFollowed hfollowed] at hmarked
        cases hmarked
      rw [Placed.nameAfter, if_neg hnot]
      exact h
    · dsimp only [Site.ofOccurrence]
      rw [atPlace_place, hname, hplace, Placed.nameAfter]
      split_ifs with hfollowed
      · exact .marked hs hfollowed
      · exact .same _

lemma follows_attributeBindings (m : Model) (chosen : Spot → Bool) (tag : String) :
    List.Forall₂ (Follows m chosen tag) (attributeBindings m tag)
      (attributeBindings ((Edit.follow chosen).model m) tag) := by
  rw [attributeBindings_eq_placed, attributeBindings_eq_placed, Edit.placed_model,
    List.filterMap_map]
  have hsame : List.Forall₂ (fun s s' => s = s' ∧ s ∈ placed m tag) (placed m tag)
    (placed m tag) := List.forall₂_same.2 fun s hs => ⟨rfl, hs⟩
  refine List.rel_filterMap ?_ hsame
  rintro s _ ⟨rfl, hs⟩
  exact follows_occurrence? hs

/-- Nothing becomes due for a report. -/
lemma isDue_of_follow {c : Component} {key : String}
    (h : IsDue ((Edit.follow chosen).model m) ((Edit.follow chosen).component c) key) :
    IsDue m c key := by
  obtain ⟨hne, hattached, hproperties, hexempt⟩ := h
  refine ⟨hne, hattached, hproperties, fun hbefore => hexempt ?_⟩
  have himplicit := isImplicit_attributeBindings_iff.2 ⟨hne, hbefore⟩
  have hgrows := (follows_attributeBindings m chosen c.tagName).imp fun o o' h => h.1
  exact (isImplicit_attributeBindings_iff.1 (isImplicit_of_grows hgrows himplicit)).2

/-- The expressions of a component are the same, up to the names of followed attributes. -/
lemma renamed_sites (c : Component) : List.Forall₂ (Site.Renamed m chosen c.tagName) (sites m c)
    (sites ((Edit.follow chosen).model m) ((Edit.follow chosen).component c)) := by
  have hobservers : ((Edit.follow chosen).component c).observers = c.observers := rfl
  have hsame : ∀ ss, List.Forall₂ (Site.Renamed m chosen c.tagName) ss ss := fun ss =>
    List.forall₂_same.2 fun s _ => .same s
  have htexts : (textBindings ((Edit.follow chosen).model m) c.tagName).map Site.ofOccurrence =
      (textBindings m c.tagName).map Site.ofOccurrence := by
    rw [textBindings_model, List.map_map]
    refine List.map_congr_left fun o _ => ?_
    rw [Function.comp_apply, Site.ofOccurrence, atPlace_place, Site.ofOccurrence]
  have hobserver : Site.ofObserver ((Edit.follow chosen).component c) = Site.ofObserver c := by
    funext o
    rw [Site.ofObserver, atPosition_component, Site.ofObserver]
  rw [sites, sites, Edit.tagName_component, hobservers, List.map_append, List.map_append, htexts,
    hobserver]
  refine List.rel_append (List.rel_append ?_ (hsame _)) (hsame _)
  exact List.rel_map (fun o o' h => h.2) (follows_attributeBindings m chosen c.tagName)

/-- What is reported for an expression afterwards, up to names. -/
def keptFindings (m : Model) (chosen : Spot → Bool) (c : Component) (s : Site) : List Diagnostic :=
  s.methodFindings c ++
    (s.dueKeys ((Edit.follow chosen).model m) ((Edit.follow chosen).component c)).map
      (s.keyFinding c)

lemma keptFindings_sublist (c : Component) (s : Site) :
    (keptFindings m chosen c s).Sublist
      (s.methodFindings c ++ (s.dueKeys m c).map (s.keyFinding c)) := by
  refine (List.Sublist.refl _).append (List.Sublist.map _ ?_)
  exact List.monotone_filter_right _ fun key h =>
    decide_eq_true (isDue_of_follow (of_decide_eq_true h))

lemma renamed_findings {c : Component} {s s' : Site}
    (h : Site.Renamed m chosen c.tagName s s') :
    List.Forall₂ (Renamed m chosen) (keptFindings m chosen c s)
      (s'.methodFindings ((Edit.follow chosen).component c) ++
        (s'.dueKeys ((Edit.follow chosen).model m) ((Edit.follow chosen).component c)).map
          (s'.keyFinding ((Edit.follow chosen).component c))) := by
  have hsame : ∀ ds, List.Forall₂ (Renamed m chosen) ds ds := fun ds =>
    List.forall₂_same.2 fun d _ => .same d
  cases h with
  | same s => exact hsame _
  | marked hs hfollowed =>
    refine List.rel_append (hsame _) ?_
    rw [List.forall₂_map_left_iff, List.forall₂_map_right_iff]
    exact List.forall₂_same.2 fun key _ => .marked hs hfollowed

lemma renamed_check (m : Model) (chosen : Spot → Bool) :
    ∃ kept, kept.Sublist (check m) ∧
      List.Forall₂ (Renamed m chosen) kept (check ((Edit.follow chosen).model m)) := by
  refine ⟨(named m).flatMap fun c => (sites m c).flatMap (keptFindings m chosen c), ?_, ?_⟩
  · refine List.Sublist.flatMap_right _ fun c _ => ?_
    rw [checkComponent_eq_sites]
    exact List.Sublist.flatMap_right _ fun s _ => keptFindings_sublist c s
  · have hcheck : check ((Edit.follow chosen).model m) =
        (named ((Edit.follow chosen).model m)).flatMap
          (checkComponent ((Edit.follow chosen).model m)) := rfl
    rw [hcheck, named_model, List.flatMap_map]
    refine List.rel_flatMap (List.forall₂_same.2 fun c _ => rfl) ?_
    rintro c _ rfl
    dsimp only
    rw [checkComponent_eq_sites]
    exact List.rel_flatMap (renamed_sites c) fun s s' => renamed_findings

end Rule.BoundVariables

namespace Rule

/-! ### The reports of delimiters -/

namespace UnbalancedDelimiters

def textFinding? (p : Place) : Option Diagnostic :=
  if isUnbalanced (textAt p) then
    some (atPlace id p s!"Expression {textAt p} has unbalanced delimiters")
  else none

def valueFinding? (s : Placed) : Option Diagnostic :=
  match s.attr.value with
  | none => none
  | some value =>
    if value ≠ "" ∧ isUnbalanced value then
      some (atPlace id s.place s!"Expression {value} has unbalanced delimiters")
    else none

lemma checkComponent_eq_filterMap (m : Model) (c : Component) : checkComponent m c =
    (textNodes m c.tagName).filterMap textFinding? ++
      (placed m c.tagName).filterMap valueFinding? := by
  rw [checkComponent, badBindings, attributes_eq_placed, List.filterMap_map, List.map_append,
    List.map_filterMap, List.map_filterMap]
  congr 1
  · refine List.filterMap_congr fun p _ => ?_
    rw [textFinding?]
    dsimp only
    split_ifs <;> rfl
  · refine List.filterMap_congr fun s _ => ?_
    rw [valueFinding?, Function.comp_apply]
    dsimp only
    cases s.attr.value with
    | none => rfl
    | some value =>
      dsimp only
      split_ifs <;> rfl

lemma check_follow (chosen : Spot → Bool) (m : Model) :
    check ((Edit.follow chosen).model m) = check m := by
  have hcheck : ∀ m, check m = (named m).flatMap (checkComponent m) := fun _ => rfl
  rw [hcheck, named_model, List.flatMap_map, hcheck]
  refine List.flatMap_congr fun c _ => ?_
  rw [checkComponent_eq_filterMap, Edit.tagName_component, Edit.textNodes_model, Edit.placed_model,
    List.filterMap_map, List.filterMap_map, checkComponent_eq_filterMap]
  congr 1
  · refine List.filterMap_congr fun p _ => ?_
    rw [Function.comp_apply, textFinding?, textAt_place, atPlace_place, textFinding?]
  · refine List.filterMap_congr fun s _ => ?_
    rw [Function.comp_apply, valueFinding?, attr_follow, Edit.placed, atPlace_place, valueFinding?]

end UnbalancedDelimiters

/-- **Following the advice on native attributes is safe.** Let some attributes be chosen, one or
more, and let the name of each be marked if it is to be, which is so for a binding just if it is
reported and not at a `dom-module`. Then the rule that gives the advice reports the other attributes
as before and these no longer, the reports of bound variables are some of the earlier ones in their
order, up to the new names, and every other rule reports the same. -/
theorem check_followed (m : Model) (chosen : Spot → Bool) :
    (∀ s : Placed, s.occurrence?.isSome ∧ s.isFollowed chosen ↔
      (NativeAttributes.finding? s).isSome ∧ chosen s.spot ∧ s.tag ≠ some "dom-module") ∧
    (NativeAttributes.check m = (named m).flatMap fun c =>
      (placed m c.tagName).filterMap NativeAttributes.finding?) ∧
    (NativeAttributes.check ((Edit.follow chosen).model m) = (named m).flatMap fun c =>
      ((placed m c.tagName).filter (!·.isFollowed chosen)).filterMap NativeAttributes.finding?) ∧
    (∃ kept, kept.Sublist (BoundVariables.check m) ∧
      List.Forall₂ (BoundVariables.Renamed m chosen) kept
        (BoundVariables.check ((Edit.follow chosen).model m))) ∧
    ∀ rule ∈ Registry.builtin.rules, rule.id ≠ NativeAttributes.id → rule.id ≠ BoundVariables.id →
      ∀ path, rule.check ((Edit.follow chosen).model m) path = rule.check m path := by
  refine ⟨NativeAttributes.isFollowed_iff chosen, NativeAttributes.check_eq_placed m,
    NativeAttributes.check_follow chosen m, BoundVariables.renamed_check m chosen, ?_⟩
  intro rule hrule hnative hbound path
  simp only [Registry.builtin, List.mem_cons, List.not_mem_nil, or_false] at hrule
  rcases hrule with rfl | rfl | rfl | rfl | rfl | rfl
  · exact absurd rfl hbound
  · exact congrArg Except.ok (undefinedElements_check_model _ m)
  · exact absurd rfl hnative
  · exact congrArg Except.ok (observers_check_model _ m)
  · exact congrArg Except.ok (domModules_check_model _ m)
  · exact congrArg Except.ok (UnbalancedDelimiters.check_follow chosen m)

/-! ### A button with three native attributes -/

def buttonDocument : Markup.Document where
  href := "x-tip.html"
  children :=
    [.element ⟨1, 0⟩ "dom-module" [⟨"id", some "x-tip"⟩]
      [.element ⟨2, 0⟩ "template" []
        [.element ⟨3, 0⟩ "button"
          [⟨"title", some "[[hint]]"⟩, ⟨"Role", some "[[part]]"⟩, ⟨"data-id", some "[[id]]"⟩]
          []]]]

def buttonModel : Model := ⟨[{ tagName := "x-tip" }], [buttonDocument]⟩

/-- The first two attributes of the button. -/
def firstTwo (spot : Spot) : Bool := spot.address == [0, 0, 0] && decide (spot.index < 2)

/-- The third is reported as before. The title is native with its mark, so that its key needs no
declaration; the other key is reported with the new name. -/
theorem check_buttonModel :
    (NativeAttributes.check buttonModel).map (·.message) =
      ["The expression [[hint]] bound to the attribute 'title' should use $= instead of =.",
       "The expression [[part]] bound to the attribute 'Role' should use $= instead of =.",
       "The expression [[id]] bound to the attribute 'data-id' should use $= instead of =."] ∧
    (BoundVariables.check ((Edit.follow firstTwo).model buttonModel)).map (·.message) =
      ["Property 'part' bound to attribute 'Role$' not found in 'properties' for element 'x-tip'",
       "Property 'id' bound to attribute 'data-id' not found in 'properties' for element 'x-tip'"] ∧
    (NativeAttributes.check ((Edit.follow firstTwo).model buttonModel)).map (·.message) =
      ["The expression [[id]] bound to the attribute 'data-id' should use $= instead of =."] := by
  obtain ⟨-, hbefore, hafter, -⟩ := check_followed buttonModel firstTwo
  rw [hbefore, hafter]
  decide +kernel

end Rule

end ComponentLint
