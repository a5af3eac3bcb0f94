import ComponentLint.Binding.Template
import ComponentLint.Proofs.DocumentOrder

/-!
The scope of a component's templates.

The texts and attributes of a component are gathered by walking from each outermost template of its
first `dom-module`. Stated of the places themselves, a text is in scope if exactly one template is
above it, counted up to the root, and that template is within the `dom-module`; an element is in
scope under the same condition, or if it is an outermost template.
-/

namespace ComponentLint.Binding

open Markup (Attribute Document Place)

/-! ### Templates above a place -/

lemma hasAncestor_iff {test : Place → Bool} {p : Place} :
    p.hasAncestor test ↔ p.ancestors.filter test ≠ [] := by
  rw [Place.hasAncestor, List.any_eq_true, Ne, List.filter_eq_nil_iff]
  simp

lemma any_nested_ancestorsFrom (href : String) (above : List (Markup.Item × ℕ)) :
    (Place.ancestorsFrom href above).any
        (fun a => a.isTemplate && a.hasAncestor Place.isTemplate) ↔
      2 ≤ ((Place.ancestorsFrom href above).filter Place.isTemplate).length := by
  induction above with
  | nil => simp [Place.ancestorsFrom]
  | cons step rest ih =>
    obtain ⟨item, i⟩ := step
    have hrest : Place.hasAncestor Place.isTemplate ⟨href, item, rest⟩ ↔
        1 ≤ ((Place.ancestorsFrom href rest).filter Place.isTemplate).length := by
      rw [hasAncestor_iff, Nat.succ_le_iff, List.length_pos_iff]
      rfl
    rw [Place.ancestorsFrom, List.any_cons, Bool.or_eq_true, Bool.and_eq_true, ih, hrest,
      List.filter_cons]
    split_ifs with htemplate
    · simp only [htemplate, true_and, List.length_cons]
      omega
    · simp [htemplate]

/-- A template inside a template is above a place exactly when two templates are. -/
lemma inNestedTemplate_iff (p : Place) : inNestedTemplate p ↔
    2 ≤ (p.ancestors.filter Place.isTemplate).length :=
  any_nested_ancestorsFrom p.href p.above

/-! ### Walking from the outermost templates -/

lemma hasAncestor_of_within {p q : Place} (h : p.Within q) (hp : p.hasAncestor Place.isTemplate) :
    q.hasAncestor Place.isTemplate := by
  obtain ⟨a, ha, htemplate⟩ := List.any_eq_true.1 hp
  exact List.any_eq_true.2 ⟨a, h.ancestors_suffix.subset ha, htemplate⟩

lemma hasAncestor_child {p c : Place} (hc : c ∈ p.children) (test : Place → Bool) :
    c.hasAncestor test = (test p || p.hasAncestor test) := by
  rw [Place.hasAncestor, Place.ancestors_of_mem_children hc, List.any_cons, Place.hasAncestor]

/-- Below a template there is no outermost template. -/
lemma filter_outer_eq_nil {p : Place} (h : p.hasAncestor Place.isTemplate) :
    p.walk.filter isOuterTemplate = [] := by
  refine List.filter_eq_nil_iff.2 fun q hq => ?_
  simp [isOuterTemplate, hasAncestor_of_within (Place.mem_walk_iff.1 hq) h]

/-- Walking from each outermost template in turn visits what is at or under a template, in the
order in which a single walk does. -/
lemma flatMap_outer (test : Place → Bool) (p : Place)
    (h : p.hasAncestor Place.isTemplate = false) :
    (p.walk.filter isOuterTemplate).flatMap (fun t => t.walk.filter test) =
      p.walk.filter fun q => test q && (q.isTemplate || q.hasAncestor Place.isTemplate) := by
  induction p using Place.induction_children with
  | step p ih =>
    by_cases htemplate : p.isTemplate
    · -- `p` is the only outermost template at or below it
      have hbelow : ∀ c ∈ p.children, c.hasAncestor Place.isTemplate := fun c hc => by
        rw [hasAncestor_child hc, htemplate, Bool.true_or]
      have hnone : (p.children.flatMap Place.walk).filter isOuterTemplate = [] := by
        rw [List.filter_flatMap]
        exact List.flatMap_eq_nil_iff.2 fun c hc => filter_outer_eq_nil (hbelow c hc)
      have houter : p.walk.filter isOuterTemplate = [p] := by
        rw [Place.walk_eq, List.filter_cons, hnone]
        simp [isOuterTemplate, htemplate, h]
      rw [houter, List.flatMap_cons, List.flatMap_nil, List.append_nil]
      refine List.filter_congr fun q hq => ?_
      rw [Place.walk_eq, List.mem_cons, List.mem_flatMap] at hq
      rcases hq with rfl | ⟨c, hc, hq⟩
      · simp [htemplate]
      · simp [hasAncestor_of_within (Place.mem_walk_iff.1 hq) (hbelow c hc)]
    · have hchildren : ∀ c ∈ p.children, c.hasAncestor Place.isTemplate = false := fun c hc => by
        rw [hasAncestor_child hc, h, Bool.or_false]
        simpa using htemplate
      rw [Place.walk_eq, List.filter_cons, List.filter_cons,
        if_neg (by simp [isOuterTemplate, htemplate]), if_neg (by simp [htemplate, h]),
        List.filter_flatMap, List.filter_flatMap, List.flatMap_assoc]
      exact List.flatMap_congr fun c hc => ih c hc (hchildren c hc)

/-- The same from any place: nothing, if a template is above it. -/
lemma flatMap_outer_eq_filter (test : Place → Bool) (d : Place) :
    (d.walk.filter isOuterTemplate).flatMap (fun t => t.walk.filter test) =
      d.walk.filter fun q => test q && (!d.hasAncestor Place.isTemplate &&
        (q.isTemplate || q.hasAncestor Place.isTemplate)) := by
  cases h : d.hasAncestor Place.isTemplate with
  | true => simp [filter_outer_eq_nil h]
  | false => simpa using flatMap_outer test d h

/-! ### Places in scope -/

/-- Exactly one template is above the place, up to the root, and it is within `d`. -/
def UnderOneTemplate (d p : Place) : Prop :=
  ∃ t, p.ancestors.filter Place.isTemplate = [t] ∧ d.Within t

lemma UnderOneTemplate.not_hasAncestor {d p : Place} (hp : d.Within p)
    (h : UnderOneTemplate d p) : ¬d.hasAncestor Place.isTemplate := by
  intro hd
  obtain ⟨t, honly, ht⟩ := h
  obtain ⟨a, ha, htemplate⟩ := List.any_eq_true.1 hd
  have hmem : a ∈ p.ancestors.filter Place.isTemplate :=
    List.mem_filter.2 ⟨hp.ancestors_suffix.subset ha, htemplate⟩
  rw [honly, List.mem_singleton] at hmem
  subst hmem
  exact a.not_mem_ancestors_self (ht.ancestors_suffix.subset ha)

/-- A place below templates, outside of nested ones, is below one; it is within `d` if none is
above `d`. -/
lemma underOneTemplate_of_not_nested {d p : Place} (hp : d.Within p)
    (hd : d.hasAncestor Place.isTemplate = false) (hnot : inNestedTemplate p = false)
    (habove : p.hasAncestor Place.isTemplate) : UnderOneTemplate d p := by
  have hnested := inNestedTemplate_iff p
  match htemplates : p.ancestors.filter Place.isTemplate with
  | [] => exact absurd htemplates (hasAncestor_iff.1 habove)
  | [t] =>
    obtain ⟨ht, htemplate⟩ : t ∈ p.ancestors ∧ t.isTemplate :=
      List.mem_filter.1 (htemplates ▸ List.mem_singleton_self t)
    refine ⟨t, htemplates, (hp.of_mem_ancestors ht).resolve_right fun htop => ?_⟩
    rw [Place.hasAncestor, List.any_eq_false] at hd
    exact hd t htop htemplate
  | t :: t' :: rest =>
    rw [htemplates] at hnested
    simp [hnot] at hnested

/-- What the walk from the outermost templates keeps, outside of nested ones. -/
lemma inScope_iff {d p : Place} (hp : d.Within p) :
    (inNestedTemplate p = false ∧ d.hasAncestor Place.isTemplate = false ∧
      (p.isTemplate ∨ p.hasAncestor Place.isTemplate)) ↔
    (p.isTemplate ∧ p.hasAncestor Place.isTemplate = false ∨ UnderOneTemplate d p) := by
  have hnested := inNestedTemplate_iff p
  constructor
  · rintro ⟨hnot, hd, hat⟩
    cases habove : p.hasAncestor Place.isTemplate with
    | false => exact Or.inl ⟨by simpa [habove] using hat, rfl⟩
    | true => exact Or.inr (underOneTemplate_of_not_nested hp hd hnot habove)
  · rintro (⟨htemplate, hnone⟩ | hunder)
    · have hd : d.hasAncestor Place.isTemplate = false :=
        Bool.eq_false_iff.2 fun hd => Bool.eq_false_iff.1 hnone (hasAncestor_of_within hp hd)
      have htemplates : p.ancestors.filter Place.isTemplate = [] := by
        by_contra hne
        exact Bool.eq_false_iff.1 hnone (hasAncestor_iff.2 hne)
      rw [htemplates] at hnested
      exact ⟨by simpa using hnested, hd, Or.inl htemplate⟩
    · have hd := hunder.not_hasAncestor hp
      obtain ⟨t, honly, -⟩ := hunder
      have habove : p.hasAncestor Place.isTemplate := hasAncestor_iff.2 (by simp [honly])
      rw [honly] at hnested
      exact ⟨by simpa using hnested, by simpa using hd, Or.inr habove⟩

lemma isTemplate_of_isText {p : Place} (h : p.isText) : p.isTemplate = false := by
  obtain ⟨href, item, above⟩ := p
  cases item with
  | document d => rfl
  | node n =>
    cases n with
    | text => rfl
    | element => cases h

/-- The texts gathered from a `dom-module`. -/
def textsOf (d : Place) : List Place :=
  (d.walkAll isOuterTemplate).flatMap fun t => t.walkAll fun p => p.isText && !inNestedTemplate p

/-- The elements whose attributes are gathered from a `dom-module`. -/
def elementsOf (d : Place) : List Place :=
  ((d.walkAll isOuterTemplate).flatMap fun t => t.walkAll fun p => !inNestedTemplate p).filter
    fun p => p.item.tag?.isSome

lemma pairwise_textsOf (d : Place) : (textsOf d).Pairwise Place.Before := by
  simp only [textsOf, Place.walkAll]
  rw [flatMap_outer_eq_filter]
  exact d.pairwise_walk.filter _

lemma mem_textsOf {d p : Place} :
    p ∈ textsOf d ↔ d.Within p ∧ p.isText ∧ UnderOneTemplate d p := by
  simp only [textsOf, Place.walkAll]
  rw [flatMap_outer_eq_filter, List.mem_filter, Place.mem_walk_iff]
  refine and_congr_right fun hp => ?_
  have hscope := inScope_iff hp
  constructor
  · intro h
    simp only [Bool.and_eq_true, Bool.not_eq_true', Bool.or_eq_true] at h
    obtain ⟨⟨htext, hnot⟩, hd, hat⟩ := h
    refine ⟨htext, (hscope.1 ⟨hnot, hd, hat⟩).resolve_left ?_⟩
    rw [isTemplate_of_isText htext]
    simp
  · rintro ⟨htext, hunder⟩
    obtain ⟨hnot, hd, hat⟩ := hscope.2 (Or.inr hunder)
    simp [htext, hnot, hd, hat]

lemma pairwise_elementsOf (d : Place) : (elementsOf d).Pairwise Place.Before := by
  simp only [elementsOf, Place.walkAll]
  rw [flatMap_outer_eq_filter]
  exact (d.pairwise_walk.filter _).filter _

lemma mem_elementsOf {d p : Place} : p ∈ elementsOf d ↔ d.Within p ∧ p.item.tag?.isSome ∧
    (p.isTemplate ∧ p.hasAncestor Place.isTemplate = false ∨ UnderOneTemplate d p) := by
  simp only [elementsOf, Place.walkAll]
  rw [flatMap_outer_eq_filter, List.mem_filter, List.mem_filter, Place.mem_walk_iff, and_assoc]
  refine and_congr_right fun hp => ?_
  rw [← inScope_iff hp, and_comm]
  simp

lemma flatMap_filter_of_nil {α β : Type} (f : α → List β) (test : α → Bool)
    (h : ∀ x, test x = false → f x = []) (l : List α) :
    (l.filter test).flatMap f = l.flatMap f := by
  induction l with
  | nil => rfl
  | cons x l ih =>
    rw [List.filter_cons, List.flatMap_cons]
    split_ifs with hx
    · rw [List.flatMap_cons, ih]
    · rw [h x (by simpa using hx), ih, List.nil_append]

/-- Only elements have attributes. -/
lemma attributes_eq_nil {p : Place} (h : p.item.tag?.isSome = false) : p.item.attributes = [] := by
  obtain ⟨href, item, above⟩ := p
  cases item with
  | document d => rfl
  | node n =>
    cases n with
    | text => rfl
    | element => cases h

/-! ### The first `dom-module` -/

/-- The `dom-module` of an id with none of that id in an earlier document, nor before it in its
own. -/
def IsFirstDomModule (m : Model) (id : String) (d : Place) : Prop :=
  ∃ (earlier : List Document) (doc : Document) (later : List Document),
    m.documents = earlier ++ doc :: later ∧
    (∀ e ∈ earlier, ∀ p, (Place.root e).Within p → ¬Model.isDomModule id p) ∧
    (Place.root doc).Within d ∧ Model.isDomModule id d ∧
    ∀ p, (Place.root doc).Within p → Model.isDomModule id p → ¬p.Before d

lemma walkAll_eq_nil_iff {p : Place} {test : Place → Bool} :
    p.walkAll test = [] ↔ ∀ q, p.Within q → ¬test q := by
  rw [Place.walkAll, List.filter_eq_nil_iff]
  simp only [Place.mem_walk_iff]

lemma isFirstDomModule_of_cons {m : Model} {id : String} {d : Place} {rest : List Place}
    (h : m.domModules id = d :: rest) : IsFirstDomModule m id d := by
  rw [Model.domModules, Model.walkAll, List.flatMap_def] at h
  obtain ⟨firsts, tail, lasts, hmap, hnone, -⟩ := List.flatten_eq_cons_iff.1 h
  obtain ⟨earlier, rest', hdocs, rfl, hrest⟩ := List.map_eq_append_iff.1 hmap
  obtain ⟨doc, later, rfl, hdoc, -⟩ := List.map_eq_cons_iff.1 hrest
  have hsorted : (d :: tail).Pairwise Place.Before := by
    rw [← hdoc]
    exact (Place.pairwise_walk _).filter _
  have hmem : ∀ p, p ∈ d :: tail ↔ (Place.root doc).Within p ∧ Model.isDomModule id p := by
    intro p
    rw [← hdoc, Place.walkAll, List.mem_filter, Place.mem_walk_iff]
  obtain ⟨hd, hmodule⟩ := (hmem d).1 List.mem_cons_self
  refine ⟨earlier, doc, later, hdocs, ?_, hd, hmodule, ?_⟩
  · intro e he
    exact walkAll_eq_nil_iff.1 (hnone _ (List.mem_map_of_mem he))
  · intro p hp hpmodule hbefore
    rcases List.mem_cons.1 ((hmem p).2 ⟨hp, hpmodule⟩) with rfl | htail
    · exact hbefore.asymm hbefore
    · exact hbefore.asymm ((List.pairwise_cons.1 hsorted).1 p htail)

lemma domModules_eq_nil_iff {m : Model} {id : String} : m.domModules id = [] ↔
    ∀ doc ∈ m.documents, ∀ p, (Place.root doc).Within p → ¬Model.isDomModule id p := by
  rw [Model.domModules, Model.walkAll, List.flatMap_eq_nil_iff]
  simp only [walkAll_eq_nil_iff]

lemma textNodes_of_cons {m : Model} {id : String} {d : Place} {rest : List Place}
    (h : m.domModules id = d :: rest) : textNodes m id = textsOf d := by
  rw [textNodes, templates, h]
  rfl

lemma attributes_of_cons {m : Model} {id : String} {d : Place} {rest : List Place}
    (h : m.domModules id = d :: rest) :
    attributes m id = (elementsOf d).flatMap fun p => p.item.attributes.map (p, ·) := by
  rw [attributes, templates, h, ← List.flatMap_assoc, elementsOf, flatMap_filter_of_nil]
  intro p hp
  rw [attributes_eq_nil hp, List.map_nil]

lemma nodup_textNodes (m : Model) (id : String) : (textNodes m id).Nodup := by
  cases h : m.domModules id with
  | nil =>
    rw [textNodes, templates, h]
    exact List.nodup_nil
  | cons d rest =>
    rw [textNodes_of_cons h]
    refine (pairwise_textsOf d).imp ?_
    rintro p q hbefore rfl
    exact hbefore.asymm hbefore

/-- **The scope of a component's templates**: the texts, and the elements whose attributes count,
of the first `dom-module` of the component, in document order. Without a `dom-module` there is
nothing in scope. -/
theorem textNodes_and_attributes_scope (m : Model) (id : String) :
    ((∀ doc ∈ m.documents, ∀ p, (Place.root doc).Within p → ¬Model.isDomModule id p) ∧
      textNodes m id = [] ∧ attributes m id = []) ∨
    ∃ d, IsFirstDomModule m id d ∧
      (textNodes m id).Pairwise Place.Before ∧
      (∀ p, p ∈ textNodes m id ↔ d.Within p ∧ p.isText ∧ UnderOneTemplate d p) ∧
      ∃ elements : List Place, elements.Pairwise Place.Before ∧
        (∀ p, p ∈ elements ↔ d.Within p ∧ p.item.tag?.isSome ∧
          (p.isTemplate ∧ p.hasAncestor Place.isTemplate = false ∨ UnderOneTemplate d p)) ∧
        attributes m id = elements.flatMap fun p => p.item.attributes.map (p, ·) := by
  cases h : m.domModules id with
  | nil =>
    refine Or.inl ⟨domModules_eq_nil_iff.1 h, ?_, ?_⟩
    · rw [textNodes, templates, h]
      rfl
    · rw [attributes, templates, h]
      rfl
  | cons d rest =>
    refine Or.inr ⟨d, isFirstDomModule_of_cons h, ?_, ?_, elementsOf d, pairwise_elementsOf d,
      fun p => mem_elementsOf, attributes_of_cons h⟩
    · rw [textNodes_of_cons h]
      exact pairwise_textsOf d
    · intro p
      rw [textNodes_of_cons h]
      exact mem_textsOf

end ComponentLint.Binding
