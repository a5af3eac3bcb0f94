import ComponentLint.Rule.BoundVariables
import Mathlib

/-!
Keys that need no declaration.

A key that is not declared is missing, unless two attribute bindings of the component use it or one
marked as native does. The exemption holds for the whole component: such a key is reported at none
of its expressions, and any other missing key is reported once for each position at which it
stands.
-/

namespace ComponentLint.Binding

/-! ### Implicit keys -/

/-- Two attribute bindings use the key, or one to a native attribute marked as such. -/
def IsExempt (key : String) (occurrences : List Occurrence) : Prop :=
  (∃ a b, [a, b].Sublist occurrences ∧ key ∈ a.parsed.keys ∧ key ∈ b.parsed.keys) ∨
    ∃ o ∈ occurrences, key ∈ o.parsed.keys ∧
      ∃ name ∈ nativeAttributes, o.attributeName = some (name ++ "$")

lemma one_lt_length_filter_iff {α : Type} {test : α → Bool} {l : List α} :
    1 < (l.filter test).length ↔ ∃ a b, [a, b].Sublist l ∧ test a ∧ test b := by
  constructor
  · intro h
    match hfilter : l.filter test with
    | [] => simp [hfilter] at h
    | [a] => simp [hfilter] at h
    | a :: b :: rest =>
      have hsub : [a, b].Sublist (l.filter test) := by
        rw [hfilter]
        exact (List.prefix_append [a, b] rest).sublist
      have htest : ∀ x ∈ [a, b], test x := fun x hx => (List.mem_filter.1 (hsub.subset hx)).2
      exact ⟨a, b, hsub.trans List.filter_sublist, htest a (by simp), htest b (by simp)⟩
  · rintro ⟨a, b, hsub, ha, hb⟩
    have hpair : [a, b].filter test = [a, b] := by simp [ha, hb]
    have hlength := (hsub.filter test).length_le
    rw [hpair] at hlength
    exact hlength

lemma mem_usesOf {key : String} {occurrences : List Occurrence} {o : Occurrence} :
    o ∈ usesOf key occurrences ↔ o ∈ occurrences ∧ key ∈ o.parsed.keys := by
  rw [usesOf, List.mem_filter, List.contains_iff_mem]

/-- A key is implicit if more than one binding uses it, or a native one. -/
lemma isImplicit_iff {occurrences : List Occurrence} {key : String} :
    isImplicit occurrences key ↔ key ≠ "" ∧
      ((∃ a b, [a, b].Sublist occurrences ∧ key ∈ a.parsed.keys ∧ key ∈ b.parsed.keys) ∨
        ∃ o ∈ occurrences, key ∈ o.parsed.keys ∧ o.native) := by
  rw [isImplicit, decide_eq_true_iff, usesOf, one_lt_length_filter_iff, ← usesOf, List.any_eq_true]
  simp only [mem_usesOf, List.contains_iff_mem, and_assoc]

/-- A name is that of a native binding if it is a native attribute followed by the mark. -/
lemma isNativeBinding_iff {name : String} :
    isNativeBinding name ↔ ∃ plain ∈ nativeAttributes, name = plain ++ "$" := by
  rw [isNativeBinding, Bool.and_eq_true, isMarked, beq_iff_eq, isNative, List.contains_iff_mem]
  constructor
  · rintro ⟨hmarked, hnative⟩
    refine ⟨_, hnative, String.toList_inj.1 ?_⟩
    rw [String.toList_append, String.toList_ofList]
    exact (List.dropLast_append_getLast? _ hmarked).symm
  · rintro ⟨plain, hnative, rfl⟩
    have hlist : (plain ++ "$").toList = plain.toList ++ ['$'] := String.toList_append
    rw [hlist, List.getLast?_concat, List.dropLast_concat, String.ofList_toList]
    exact ⟨rfl, hnative⟩

/-- An attribute binding has the name of its attribute, and the mark is read off that name. -/
lemma native_of_mem_attributeBindings {m : Model} {id : String} {o : Occurrence}
    (h : o ∈ attributeBindings m id) :
    o.native ↔ ∃ plain ∈ nativeAttributes, o.attributeName = some (plain ++ "$") := by
  obtain ⟨⟨p, a⟩, -, hbinding⟩ := List.mem_filterMap.1 h
  dsimp only at hbinding
  cases hvalue : a.value with
  | none =>
    rw [hvalue] at hbinding
    cases hbinding
  | some value =>
    rw [hvalue] at hbinding
    dsimp only at hbinding
    split_ifs at hbinding
    · cases hbinding
      simp only [isNativeBinding_iff, Option.some.injEq]

lemma isImplicit_attributeBindings_iff {m : Model} {id key : String} :
    isImplicit (attributeBindings m id) key ↔
      key ≠ "" ∧ IsExempt key (attributeBindings m id) := by
  rw [isImplicit_iff, IsExempt]
  refine and_congr_right fun _ => or_congr_right (exists_congr fun o => ?_)
  exact and_congr_right fun ho => and_congr_right fun _ => native_of_mem_attributeBindings ho

lemma mem_implicitKeys {occurrences : List Occurrence} {key : String} :
    key ∈ implicitKeys occurrences ↔ isImplicit occurrences key := by
  rw [implicitKeys, List.mem_eraseDups, List.mem_filter, List.mem_flatMap, and_iff_right_iff_imp,
    isImplicit_iff]
  rintro ⟨-, ⟨a, b, hsub, ha, -⟩ | ⟨o, ho, hkey, -⟩⟩
  · exact ⟨a, hsub.subset List.mem_cons_self, ha⟩
  · exact ⟨o, ho, hkey⟩

/-! ### The same bindings in another order -/

/-- Bindings that use the same keys, in any order and any number of times, and are marked alike. -/
def Occurrence.UsesSame (o o' : Occurrence) : Prop :=
  o.native = o'.native ∧ ∀ key, key ∈ o.parsed.keys ↔ key ∈ o'.parsed.keys

/-- The same bindings in another order, up to the order and number of the keys in each. -/
def SameUses (l l' : List Occurrence) : Prop :=
  ∃ reordered, l.Perm reordered ∧ List.Forall₂ Occurrence.UsesSame reordered l'

/-- Whether a key is implicit can be told from the marks of the bindings that use it. -/
lemma isImplicit_congr {l l' : List Occurrence} {key : String}
    (h : ((usesOf key l).map (·.native)).Perm ((usesOf key l').map (·.native))) :
    isImplicit l key = isImplicit l' key := by
  have hlength : (usesOf key l).length = (usesOf key l').length := by simpa using h.length_eq
  have hnative : (usesOf key l).any (·.native) = (usesOf key l').any (·.native) := by
    rw [Bool.eq_iff_iff]
    simpa using h.mem_iff (a := true)
  rw [isImplicit, isImplicit, hlength, hnative]

lemma map_native_usesOf {l l' : List Occurrence} (h : List.Forall₂ Occurrence.UsesSame l l')
    (key : String) : (usesOf key l).map (·.native) = (usesOf key l').map (·.native) := by
  induction h with
  | nil => rfl
  | @cons o o' l l' ho _ ih =>
    have hkey : o.parsed.keys.contains key = o'.parsed.keys.contains key := by
      rw [Bool.eq_iff_iff, List.contains_iff_mem, List.contains_iff_mem, ho.2]
    rw [usesOf, usesOf] at ih ⊢
    rw [List.filter_cons, List.filter_cons, hkey]
    split_ifs
    · rw [List.map_cons, List.map_cons, ih, ho.1]
    · exact ih

lemma SameUses.isImplicit_eq {l l' : List Occurrence} (h : SameUses l l') (key : String) :
    isImplicit l key = isImplicit l' key := by
  obtain ⟨reordered, hperm, hsame⟩ := h
  refine isImplicit_congr ?_
  rw [← map_native_usesOf hsame]
  exact (hperm.filter _).map _

end ComponentLint.Binding

namespace ComponentLint.Rule.BoundVariables

open Binding

/-! ### The expressions of a component -/

/-- An expression that is checked for a component: what it is called in a report, the attribute it
is bound to, and where it is reported. -/
structure Site where
  label : String
  attributeName : Option String
  parsed : Expression
  report : String → Diagnostic

def Site.ofOccurrence (o : Occurrence) : Site :=
  ⟨"Computed Binding", o.attributeName, o.parsed, atPlace id o.place⟩

def Site.ofObserver (c : Component) (o : Observer) : Site :=
  ⟨"Observer", none, Expression.parse ("\x7b\x7b" ++ o.expression ++ "\x7d\x7d"),
    atPosition id o.position c⟩

/-- The attribute bindings of a component, its text bindings and its observers. -/
def sites (m : Model) (c : Component) : List Site :=
  (attributeBindings m c.tagName ++ textBindings m c.tagName).map Site.ofOccurrence ++
    c.observers.map (Site.ofObserver c)

/-- A key is due for a report: it is not empty, not declared and not implicit. -/
def IsDue (m : Model) (c : Component) (key : String) : Prop :=
  key ≠ "" ∧ key ≠ "isAttached" ∧ (∀ q ∈ c.properties, q.name ≠ key) ∧
    ¬IsExempt key (attributeBindings m c.tagName)

section Keys

variable {m : Model} {c : Component}

lemma isMissing_iff {key : String} :
    isMissing (c.properties ++ builtins) (isImplicit (attributeBindings m c.tagName)) key ↔
      IsDue m c key := by
  rw [isMissing, decide_eq_true_iff, Bool.not_eq_true', Bool.not_eq_true', ← Bool.not_eq_true,
    ← Bool.not_eq_true, isImplicit_attributeBindings_iff, List.any_append, Bool.or_eq_true,
    List.any_eq_true, IsDue]
  simp only [builtins, List.any_cons, List.any_nil, Bool.or_false, beq_iff_eq]
  constructor
  · rintro ⟨hne, himplicit, hdeclared⟩
    exact ⟨hne, fun h => hdeclared (Or.inr h.symm), fun q hq h => hdeclared (Or.inl ⟨q, hq, h⟩),
      fun h => himplicit ⟨hne, h⟩⟩
  · rintro ⟨hne, hattached, hproperties, hexempt⟩
    refine ⟨hne, fun h => hexempt h.2, ?_⟩
    rintro (⟨q, hq, h⟩ | h)
    · exact hproperties q hq h
    · exact hattached h.symm

instance (key : String) : Decidable (IsDue m c key) := decidable_of_iff _ isMissing_iff

/-- The keys of an expression that are reported, in order. -/
def Site.dueKeys (m : Model) (c : Component) (s : Site) : List String :=
  s.parsed.keys.filter (IsDue m c ·)

/-- The report of a key. -/
def Site.keyFinding (c : Component) (s : Site) (key : String) : Diagnostic :=
  s.report (keyMessage c.tagName key s.attributeName)

/-- The reports of the methods of an expression. -/
def Site.methodFindings (c : Component) (s : Site) : List Diagnostic :=
  (s.parsed.methods.filterMap
    (methodMessage? s.label c.tagName · (c.properties ++ builtins))).map s.report

/-- Each expression is reported for its methods and for its due keys. -/
lemma checkComponent_eq_sites : checkComponent m c =
    (sites m c).flatMap fun s => s.methodFindings c ++ (s.dueKeys m c).map (s.keyFinding c) := by
  have hdue : ∀ s : Site, s.dueKeys m c = s.parsed.keys.filter
      (isMissing (c.properties ++ builtins) (isImplicit (attributeBindings m c.tagName))) := by
    refine fun s => List.filter_congr fun key _ => ?_
    rw [Bool.eq_iff_iff, decide_eq_true_iff, isMissing_iff]
  have hsite : ∀ s : Site, s.methodFindings c ++ (s.dueKeys m c).map (s.keyFinding c) =
      (messages s.label c.tagName (c.properties ++ builtins)
        (isImplicit (attributeBindings m c.tagName)) s.attributeName s.parsed).map s.report := by
    intro s
    rw [messages, List.map_append, List.map_map, hdue]
    rfl
  simp only [hsite]
  rw [sites, List.flatMap_append, List.flatMap_map, List.flatMap_map]
  rfl

lemma Site.mem_dueKeys {s : Site} {key : String} :
    key ∈ s.dueKeys m c ↔ key ∈ s.parsed.keys ∧ IsDue m c key := by
  rw [dueKeys, List.mem_filter, decide_eq_true_iff]

end Keys

/-- **A missing key is reported at every position or nowhere.** The findings for a component are
those of its expressions, one after the other. A key that is not declared is reported nowhere if it
is shared by two attribute bindings or bound natively, and else once for each position at which it
stands in an expression; a declared or an empty key is never reported. Which keys are implicit does
not depend on the order of the bindings nor on repetitions of a key in one of them. -/
theorem check_reports_due_keys (m : Model) (c : Component) (before after : List Component)
    (hcomponents : m.components = before ++ c :: after) (htag : c.tagName ≠ "") :
    check m = check { m with components := before } ++
        (sites m c).flatMap (fun s => s.methodFindings c ++ (s.dueKeys m c).map (s.keyFinding c)) ++
      check { m with components := after } ∧
    (∀ key, key ≠ "" → key ≠ "isAttached" → (∀ q ∈ c.properties, q.name ≠ key) →
      (IsExempt key (attributeBindings m c.tagName) →
        ∀ s ∈ sites m c, key ∉ s.dueKeys m c) ∧
      (¬IsExempt key (attributeBindings m c.tagName) →
        ∀ s ∈ sites m c, (s.dueKeys m c).count key = s.parsed.keys.count key)) ∧
    (∀ key, key = "" ∨ key = "isAttached" ∨ (∃ q ∈ c.properties, q.name = key) →
      ∀ s ∈ sites m c, key ∉ s.dueKeys m c) ∧
    (∀ key, key ∈ implicitKeys (attributeBindings m c.tagName) ↔
      key ≠ "" ∧ IsExempt key (attributeBindings m c.tagName)) ∧
    ∀ l l', SameUses l l' → ∀ key, key ∈ implicitKeys l ↔ key ∈ implicitKeys l' := by
  refine ⟨?_, fun key hne hattached hproperties => ⟨fun hexempt s _ hmem => ?_,
    fun hexempt s _ => ?_⟩, fun key hkey s _ hmem => ?_, fun key => ?_, fun l l' hsame key => ?_⟩
  · rw [check, hcomponents, List.filter_append, List.filter_cons_of_pos (by simpa using htag),
      List.flatMap_append, List.flatMap_cons, checkComponent_eq_sites, List.append_assoc]
    rfl
  · exact (Site.mem_dueKeys.1 hmem).2.2.2.2 hexempt
  · exact List.count_filter (decide_eq_true ⟨hne, hattached, hproperties, hexempt⟩)
  · obtain ⟨-, hne, hattached, hproperties, -⟩ := Site.mem_dueKeys.1 hmem
    rcases hkey with rfl | rfl | ⟨q, hq, rfl⟩
    · exact hne rfl
    · exact hattached rfl
    · exact hproperties q hq rfl
  · rw [mem_implicitKeys, isImplicit_attributeBindings_iff]
  · rw [mem_implicitKeys, mem_implicitKeys, hsame.isImplicit_eq]

/-! ### A component with shared, native and missing keys -/

/-- One key is bound natively and again in the text, one at two attributes, one at an attribute. -/
def listDocument : Markup.Document where
  href := "x-list.html"
  children :=
    [.element ⟨1, 0⟩ "dom-module" [⟨"id", some "x-list"⟩]
      [.element ⟨2, 0⟩ "template" []
        [.element ⟨3, 0⟩ "a"
          [⟨"class$", some "\x7b\x7bkind\x7d\x7d"⟩, ⟨"size", some "\x7b\x7bsize\x7d\x7d"⟩,
           ⟨"limit", some "[[size]]"⟩, ⟨"label", some "[[name]]"⟩]
          [.text ⟨3, 9⟩ "[[kind]]"]]]]

def listComponent : Component where
  tagName := "x-list"
  observers := [{ expression := "resized(name, size, name)" }]

def listModel : Model := ⟨[listComponent], [listDocument]⟩

/-- The name is reported at its attribute and twice at the observer, whose method is reported too;
the other keys are implicit. -/
theorem check_listModel :
    listComponent.tagName ≠ "" ∧
    check listModel = (sites listModel listComponent).flatMap (fun s =>
      s.methodFindings listComponent ++
        (s.dueKeys listModel listComponent).map (s.keyFinding listComponent)) ∧
    (∀ s ∈ sites listModel listComponent, "kind" ∉ s.dueKeys listModel listComponent) ∧
    (∀ s ∈ sites listModel listComponent, "size" ∉ s.dueKeys listModel listComponent) ∧
    (∀ s ∈ sites listModel listComponent,
      (s.dueKeys listModel listComponent).count "name" = s.parsed.keys.count "name") ∧
    (check listModel).map (·.message) =
      ["Property 'name' bound to attribute 'label' not found in 'properties' for element 'x-list'",
       "Observer method 'resized' is not defined on element 'x-list'",
       "Property name not found in 'properties' for element 'x-list'",
       "Property name not found in 'properties' for element 'x-list'"] := by
  have htag : listComponent.tagName ≠ "" := by decide
  obtain ⟨hcheck, hkeys, -, himplicit, -⟩ :=
    check_reports_due_keys listModel listComponent [] [] rfl htag
  have hkind : "kind" ∈ implicitKeys (attributeBindings listModel listComponent.tagName) := by
    decide +kernel
  have hsize : "size" ∈ implicitKeys (attributeBindings listModel listComponent.tagName) := by
    decide +kernel
  have hname : "name" ∉ implicitKeys (attributeBindings listModel listComponent.tagName) := by
    decide +kernel
  have hexempt : ¬IsExempt "name" (attributeBindings listModel listComponent.tagName) :=
    fun h => hname ((himplicit "name").2 ⟨by decide, h⟩)
  refine ⟨htag, ?_, ?_, ?_, ?_, by decide +kernel⟩
  · simpa [check] using hcheck
  · exact (hkeys "kind" (by decide) (by decide) (by decide)).1 ((himplicit "kind").1 hkind).2
  · exact (hkeys "size" (by decide) (by decide) (by decide)).1 ((himplicit "size").1 hsize).2
  · exact (hkeys "name" (by decide) (by decide) (by decide)).2 hexempt

end ComponentLint.Rule.BoundVariables
