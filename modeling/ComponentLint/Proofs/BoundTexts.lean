import ComponentLint.Proofs.CompoundText
import ComponentLint.Proofs.TemplateScope
import ComponentLint.Rule.BoundVariables

/-!
What is reported at a text with several bindings.

One report is due for each binding whose name is not declared. Since one expression is taken from a
text, what is reported is the one leading binding, and nothing in the other brackets; several
leading bindings are looked up as one key, which no component declares.
-/

namespace ComponentLint.Rule.BoundVariables

open Binding
open Markup (Place)

/-! ### Findings at a text -/

/-- What is reported at the attributes of a component's templates. -/
def attributeFindings (m : Model) (c : Component) : List Diagnostic :=
  (attributeBindings m c.tagName).flatMap fun o =>
    (messages "Computed Binding" c.tagName (c.properties ++ builtins)
      (isImplicit (attributeBindings m c.tagName)) o.attributeName o.parsed).map
      (atPlace id o.place)

/-- What is reported at one text. -/
def textFindings (m : Model) (c : Component) (p : Place) : List Diagnostic :=
  if isBound (textAt p) then
    (messages "Computed Binding" c.tagName (c.properties ++ builtins)
      (isImplicit (attributeBindings m c.tagName)) none (Expression.parse (textAt p))).map
      (atPlace id p)
  else []

/-- What is reported at the observers of a component. -/
def observerFindings (m : Model) (c : Component) : List Diagnostic :=
  c.observers.flatMap fun o =>
    (messages "Observer" c.tagName (c.properties ++ builtins)
      (isImplicit (attributeBindings m c.tagName)) none
      (Expression.parse ("\x7b\x7b" ++ o.expression ++ "\x7d\x7d"))).map
      (atPosition id o.position c)

/-- A component is checked at its attributes, then text by text, then at its observers. -/
lemma checkComponent_eq (m : Model) (c : Component) : checkComponent m c =
    attributeFindings m c ++ (textNodes m c.tagName).flatMap (textFindings m c) ++
      observerFindings m c := by
  have htexts : (textBindings m c.tagName).flatMap (fun o =>
      (messages "Computed Binding" c.tagName (c.properties ++ builtins)
        (isImplicit (attributeBindings m c.tagName)) o.attributeName o.parsed).map
        (atPlace id o.place)) = (textNodes m c.tagName).flatMap (textFindings m c) := by
    rw [textBindings, List.filterMap_eq_flatMap_toList, List.flatMap_assoc]
    refine List.flatMap_congr fun p _ => ?_
    rw [textFindings]
    dsimp only
    split_ifs
    · exact List.append_nil _
    · rfl
  rw [checkComponent, List.flatMap_append, htexts]
  rfl

/-- Whether a component declares a name, or every component has it. -/
def isDeclared (c : Component) (name : String) : Bool :=
  (c.properties ++ builtins).any (·.name == name)

/-- The report that a name bound in a text is not declared. -/
def undeclaredAt (c : Component) (p : Place) (name : String) : Diagnostic :=
  atPlace id p (keyMessage c.tagName name none)

/-- The reports on those of some names that are not declared. -/
def undeclaredReports (c : Component) (p : Place) (names : List String) : List Diagnostic :=
  (names.filter (!isDeclared c ·)).map (undeclaredAt c p)

/-- One report for each binding of a text whose name is not declared. -/
def dueFindings (c : Component) (p : Place) (t : Compound) : List Diagnostic :=
  undeclaredReports c p (t.segments.map fun b => String.ofList b.name)

section Findings

variable {m : Model} {c : Component} {p : Place} {t : Compound}

lemma undeclaredAt_injective (c : Component) (p : Place) :
    Function.Injective (undeclaredAt c p) := by
  intro k k' h
  have hmessage : keyMessage c.tagName k none = keyMessage c.tagName k' none :=
    congrArg Diagnostic.message h
  have hlist : k.toList = k'.toList := by
    simpa [keyMessage, toString] using congrArg String.toList hmessage
  exact String.toList_inj.1 hlist

/-- The reports tell which names are not declared. -/
lemma undeclaredReports_inj {names names' : List String} :
    undeclaredReports c p names = undeclaredReports c p names' ↔
      names.filter (!isDeclared c ·) = names'.filter (!isDeclared c ·) :=
  (List.map_injective_iff.2 (undeclaredAt_injective c p)).eq_iff

/-- Where what is extracted starts with a name and has no parenthesis, one key is looked up: the
part before the first point. -/
lemma textFindings_of_extract {name y : List Char}
    (hattributes : attributeBindings m c.tagName = []) (hname : IsName name) (hparen : '(' ∉ y)
    (hextract : Expression.extractChars (textAt p).toList = some (name ++ y)) :
    textFindings m c p =
      undeclaredReports c p [String.ofList (name ++ y.takeWhile (· ≠ '.'))] := by
  have hkey := hname.takeWhile_append y
  have hcall : '(' ∉ name ++ y := by
    rw [List.mem_append, not_or]
    exact ⟨hname.not_mem (by decide), hparen⟩
  have hbound : isBound (textAt p) := by simp [isBound, Expression.extract, hextract]
  obtain ⟨d, ds, rfl, hword, hdigit⟩ := hname.exists_cons
  rw [List.cons_append] at hextract hcall
  have hparse := Expression.parse_path 0 hextract hword hdigit hcall
  have himplicit : ∀ key, isImplicit [] key = false := by simp [isImplicit, usesOf]
  have hmissing : isMissing (c.properties ++ builtins) (isImplicit [])
      (String.ofList (d :: ds ++ y.takeWhile (· ≠ '.'))) =
      !isDeclared c (String.ofList (d :: ds ++ y.takeWhile (· ≠ '.'))) := by
    rw [isMissing, himplicit, isDeclared]
    cases (c.properties ++ builtins).any (·.name == _) <;> simp
  rw [textFindings, if_pos hbound, messages, hparse, hattributes, List.filterMap_nil,
    List.nil_append, List.map_map]
  dsimp only
  rw [← List.cons_append, hkey, undeclaredReports, List.filter_singleton, List.filter_singleton,
    hmissing]
  rfl

lemma textFindings_single {b : Segment} (hattributes : attributeBindings m c.tagName = [])
    (htext : (textAt p).toList = t.chars) (hlead : t.leading = [b]) :
    textFindings m c p = undeclaredReports c p [String.ofList b.name] := by
  have hextract : Expression.extractChars (textAt p).toList = some (b.name ++ []) := by
    rw [htext, Compound.extractChars_single hlead, List.append_nil]
  have hfindings := textFindings_of_extract hattributes b.isName List.not_mem_nil hextract
  rwa [List.takeWhile_nil, List.append_nil] at hfindings

/-- A name with a closing bracket in it is declared by no component that declares none such. -/
lemma isDeclared_eq_false {key : List Char} {k : Bracket} (hkey : k.closing ∈ key)
    (hnames : ∀ q ∈ c.properties, '}' ∉ q.name.toList ∧ ']' ∉ q.name.toList) :
    isDeclared c (String.ofList key) = false := by
  refine List.any_eq_false.2 fun q hq heq => ?_
  have hname : q.name.toList = key := by
    rw [beq_iff_eq.1 heq, String.toList_ofList]
  rcases List.mem_append.1 hq with hq | hq
  · obtain ⟨hcurly, hsquare⟩ := hnames q hq
    rw [hname] at hcurly hsquare
    cases k
    · exact hcurly hkey
    · exact hsquare hkey
  · obtain rfl : q = _ := List.mem_singleton.1 hq
    rw [← hname] at hkey
    revert hkey
    cases k <;> decide +kernel

/-- Several leading bindings are looked up as one key that goes on after the first of them. -/
lemma textFindings_several (hattributes : attributeBindings m c.tagName = [])
    (htext : (textAt p).toList = t.chars) (hlength : 2 ≤ t.leading.length)
    (hnames : ∀ q ∈ c.properties, '}' ∉ q.name.toList ∧ ']' ∉ q.name.toList)
    (hparen : ∀ s ∈ t.segments, '(' ∉ s.after) :
    ∃ key, t.leadingBracket.closing ∈ key ∧
      textFindings m c p = [undeclaredAt c p (String.ofList key)] := by
  obtain ⟨b, b', more, hlead⟩ : ∃ b b' more, t.leading = b :: b' :: more := by
    match hlead : t.leading with
    | [] => simp [hlead] at hlength
    | [b] => simp [hlead] at hlength
    | b :: b' :: more => exact ⟨b, b', more, rfl⟩
  obtain ⟨x, hx, hnone⟩ := Compound.extractChars_several hlead
  have hclosing : '(' ≠ t.leadingBracket.closing := by cases t.leadingBracket <;> decide
  have hpoint : t.leadingBracket.closing ≠ '.' := by cases t.leadingBracket <;> decide
  have hrest : '(' ∉ t.leadingBracket.closing :: t.leadingBracket.closing :: x := by
    simp [hclosing, hnone hparen]
  have hkey : t.leadingBracket.closing ∈ b.name ++
      (t.leadingBracket.closing :: t.leadingBracket.closing :: x).takeWhile (· ≠ '.') := by
    simp [hpoint]
  refine ⟨_, hkey, ?_⟩
  rw [textFindings_of_extract hattributes b.isName hrest (htext ▸ hx), undeclaredReports,
    List.filter_singleton, isDeclared_eq_false hkey hnames]
  rfl

lemma filter_insert_eq_iff {α : Type} {test : α → Bool} {x : α} {l₁ l₂ : List α} :
    (l₁ ++ x :: l₂).filter test = [x].filter test ↔ ∀ y ∈ l₁ ++ l₂, test y = false := by
  have hsplit : (l₁ ++ x :: l₂).filter test =
      l₁.filter test ++ ([x].filter test ++ l₂.filter test) := by
    rw [← List.singleton_append, List.filter_append, List.filter_append]
  constructor
  · intro h
    have hlength := congrArg List.length (hsplit.symm.trans h)
    simp only [List.length_append] at hlength
    have h₁ : l₁.filter test = [] := List.length_eq_zero_iff.1 (by omega)
    have h₂ : l₂.filter test = [] := List.length_eq_zero_iff.1 (by omega)
    intro y hy
    rcases List.mem_append.1 hy with hy | hy
    · simpa using List.filter_eq_nil_iff.1 h₁ y hy
    · simpa using List.filter_eq_nil_iff.1 h₂ y hy
  · intro h
    have h₁ : l₁.filter test = [] :=
      List.filter_eq_nil_iff.2 fun y hy => by simp [h y (List.mem_append_left _ hy)]
    have h₂ : l₂.filter test = [] :=
      List.filter_eq_nil_iff.2 fun y hy => by simp [h y (List.mem_append_right _ hy)]
    rw [hsplit, h₁, h₂, List.nil_append, List.append_nil]

/-- The only leading binding is reported as it should be; the others are not reported at all. -/
lemma textFindings_eq_due_of_single {b : Segment} (hattributes : attributeBindings m c.tagName = [])
    (htext : (textAt p).toList = t.chars) (hlead : t.leading = [b]) :
    textFindings m c p = dueFindings c p t ↔
      ∀ s ∈ t.segments, s.bracket ≠ t.leadingBracket → isDeclared c (String.ofList s.name) := by
  obtain ⟨pre, rest, hsplit, hpre, hb, hrest⟩ := Compound.exists_only_leading hlead
  rw [textFindings_single hattributes htext hlead, dueFindings, eq_comm, undeclaredReports_inj,
    hsplit, List.map_append, List.map_cons, filter_insert_eq_iff, ← List.map_append,
    List.forall_mem_map]
  constructor
  · intro h s hs hbracket
    have hother : s ∈ pre ++ rest := by
      rcases List.mem_append.1 hs with hs | hs
      · exact List.mem_append_left _ hs
      · rcases List.mem_cons.1 hs with rfl | hs
        · exact absurd hb hbracket
        · exact List.mem_append_right _ hs
    simpa using h s hother
  · intro h s hs
    have hdeclared : isDeclared c (String.ofList s.name) := by
      rcases List.mem_append.1 hs with hs | hs
      · exact h s (List.mem_append_left _ hs) (hpre s hs)
      · exact h s (List.mem_append_right _ (List.mem_cons_of_mem _ hs)) (hrest s hs)
    simp [hdeclared]

/-- The key that several leading bindings are looked up as is none of the names. -/
lemma not_mem_dueFindings {key : List Char} (hkey : t.leadingBracket.closing ∈ key) :
    undeclaredAt c p (String.ofList key) ∉ dueFindings c p t := by
  intro hmem
  obtain ⟨name, hname, heq⟩ := List.mem_map.1 hmem
  obtain ⟨b, -, rfl⟩ := List.mem_map.1 (List.mem_filter.1 hname).1
  obtain rfl := String.ofList_injective (undeclaredAt_injective c p heq)
  exact b.isName.isPlain.closing_not_mem _ hkey

end Findings

/-- **A text is reported as it should be exactly when one binding is in the brackets that lead and
all others are declared.** That one is reported if it is not declared; several are reported as one
key that goes on past the first of them. The other texts, the observers and the other components are
reported apart. -/
theorem textFindings_eq_due_iff (m : Model) (c : Component) (p : Place) (t : Compound)
    (hattributes : attributeBindings m c.tagName = []) (hp : p ∈ textNodes m c.tagName)
    (htext : (textAt p).toList = t.chars)
    (hnames : 2 ≤ t.leading.length →
      ∀ q ∈ c.properties, '}' ∉ q.name.toList ∧ ']' ∉ q.name.toList)
    (hparen : 2 ≤ t.leading.length → ∀ b ∈ t.segments, '(' ∉ b.after) :
    (∃ before after, textNodes m c.tagName = before ++ p :: after ∧ p ∉ before ∧ p ∉ after ∧
      checkComponent m c = before.flatMap (textFindings m c) ++ textFindings m c p ++
        after.flatMap (textFindings m c) ++ observerFindings m c ∧
      ∀ earlier later, m.components.filter (·.tagName ≠ "") = earlier ++ c :: later →
        check m = earlier.flatMap (checkComponent m) ++
          (before.flatMap (textFindings m c) ++ textFindings m c p ++
            after.flatMap (textFindings m c) ++ observerFindings m c) ++
          later.flatMap (checkComponent m)) ∧
    (∀ b, t.leading = [b] → textFindings m c p = undeclaredReports c p [String.ofList b.name]) ∧
    (2 ≤ t.leading.length → ∃ key, t.leadingBracket.closing ∈ key ∧
      textFindings m c p = [undeclaredAt c p (String.ofList key)]) ∧
    (textFindings m c p = dueFindings c p t ↔
      t.leading.length = 1 ∧ ∀ b ∈ t.segments,
        b.bracket ≠ t.leadingBracket → isDeclared c (String.ofList b.name)) := by
  have hseveral := fun hlength =>
    textFindings_several hattributes htext hlength (hnames hlength) (hparen hlength)
  refine ⟨?_, fun b => textFindings_single hattributes htext, hseveral, ?_⟩
  · obtain ⟨before, after, hsplit⟩ := List.append_of_mem hp
    have hnodup := nodup_textNodes m c.tagName
    rw [hsplit, List.nodup_middle, List.nodup_cons, List.mem_append, not_or] at hnodup
    obtain ⟨⟨hbefore, hafter⟩, -⟩ := hnodup
    have hcomponent : checkComponent m c = before.flatMap (textFindings m c) ++
        textFindings m c p ++ after.flatMap (textFindings m c) ++ observerFindings m c := by
      rw [checkComponent_eq, hsplit, attributeFindings, hattributes]
      simp
    refine ⟨before, after, hsplit, hbefore, hafter, hcomponent, fun earlier later hsplit => ?_⟩
    rw [check, hsplit, List.flatMap_append, List.flatMap_cons, hcomponent, ← List.append_assoc]
  · have hpos : 0 < t.leading.length := List.length_pos_iff.2 t.leading_ne_nil
    rcases Nat.lt_or_ge t.leading.length 2 with hshort | hlength
    · have hone : t.leading.length = 1 := by omega
      obtain ⟨b, hlead⟩ := List.length_eq_one_iff.1 hone
      rw [textFindings_eq_due_of_single hattributes htext hlead]
      exact (and_iff_right hone).symm
    · obtain ⟨key, hkey, hfindings⟩ := hseveral hlength
      constructor
      · intro hdue
        rw [hfindings] at hdue
        exact absurd (hdue ▸ List.mem_singleton_self _) (not_mem_dueFindings hkey)
      · rintro ⟨hone, -⟩
        omega

/-! ### A component whose template is one text -/

def cardTemplate (text : String) : Markup.Node :=
  .element ⟨1, 24⟩ "template" [] [.text ⟨1, 34⟩ text]

def cardModule (text : String) : Markup.Node :=
  .element ⟨1, 0⟩ "dom-module" [⟨"id", some "x-card"⟩] [cardTemplate text]

def cardDocument (text : String) : Markup.Document := ⟨"x-card.html", [cardModule text]⟩

def cardModuleAt (text : String) : Place :=
  ⟨"x-card.html", .node (cardModule text), [(.document (cardDocument text), 0)]⟩

def cardTemplateAt (text : String) : Place :=
  ⟨"x-card.html", .node (cardTemplate text),
    ((cardModuleAt text).item, 0) :: (cardModuleAt text).above⟩

def cardTextAt (text : String) : Place :=
  ⟨"x-card.html", .node (.text ⟨1, 34⟩ text),
    ((cardTemplateAt text).item, 0) :: (cardTemplateAt text).above⟩

def cardComponent (declared : List String) : Component where
  tagName := "x-card"
  properties := declared.map fun name => { name := name }

def card (text : String) (declared : List String) : Model :=
  ⟨[cardComponent declared], [cardDocument text]⟩

lemma walk_of_children_singleton {p q : Place} (h : p.children = [q]) : p.walk = p :: q.walk := by
  rw [Place.walk_eq, h, List.flatMap_singleton]

lemma walk_cardTemplateAt (text : String) :
    (cardTemplateAt text).walk = [cardTemplateAt text, cardTextAt text] := by
  rw [walk_of_children_singleton rfl, Place.walk_eq]
  rfl

lemma templates_card (text : String) (declared : List String) :
    templates (card text declared) "x-card" = [cardTemplateAt text] := by
  have hmodule : (cardModuleAt text).walk =
      [cardModuleAt text, cardTemplateAt text, cardTextAt text] := by
    rw [← walk_cardTemplateAt]
    exact walk_of_children_singleton rfl
  have hroot : (Place.root (cardDocument text)).walk =
      Place.root (cardDocument text) :: (cardModuleAt text).walk :=
    walk_of_children_singleton rfl
  have hmodules : (card text declared).domModules "x-card" = [cardModuleAt text] := by
    rw [Model.domModules, Model.walkAll, card, List.flatMap_singleton, Place.walkAll, hroot,
      hmodule]
    rfl
  rw [templates, hmodules]
  dsimp only
  rw [Place.walkAll, hmodule]
  rfl

lemma textNodes_card (text : String) (declared : List String) :
    textNodes (card text declared) (cardComponent declared).tagName = [cardTextAt text] := by
  rw [textNodes, cardComponent, templates_card, List.flatMap_singleton, Place.walkAll,
    walk_cardTemplateAt]
  rfl

lemma attributeBindings_card (text : String) (declared : List String) :
    attributeBindings (card text declared) (cardComponent declared).tagName = [] := by
  rw [attributeBindings, attributes, cardComponent, templates_card, List.flatMap_singleton,
    Place.walkAll, walk_cardTemplateAt]
  rfl

lemma check_card (text : String) (declared : List String) :
    check (card text declared) =
      textFindings (card text declared) (cardComponent declared) (cardTextAt text) := by
  have hcomponents : (card text declared).components.filter (·.tagName ≠ "") =
      [cardComponent declared] := rfl
  rw [check, hcomponents, List.flatMap_singleton, checkComponent_eq, attributeFindings,
    attributeBindings_card, textNodes_card, List.flatMap_nil, List.nil_append,
    List.flatMap_singleton]
  exact List.append_nil _

/-- A binding in square brackets, then one in curly brackets, which leads. -/
def salutation : Compound where
  start := "Dear ".toList
  segments :=
    [⟨.square, "title".toList, " ".toList, by decide, by decide⟩,
      ⟨.curly, "name".toList, ",".toList, by decide, by decide⟩]
  isPlain := by decide
  segments_ne_nil := by simp

def salutationText : String := "Dear [[title]] \x7b\x7bname\x7d\x7d,"

/-- With the title declared, the name is reported, as it should be. -/
theorem textFindings_salutation :
    dueFindings (cardComponent ["title"]) (cardTextAt salutationText) salutation =
      [undeclaredAt (cardComponent ["title"]) (cardTextAt salutationText) "name"] ∧
    textFindings (card salutationText ["title"]) (cardComponent ["title"])
        (cardTextAt salutationText) =
      dueFindings (cardComponent ["title"]) (cardTextAt salutationText) salutation := by
  have hmem : cardTextAt salutationText ∈
      textNodes (card salutationText ["title"]) (cardComponent ["title"]).tagName := by
    rw [textNodes_card]
    exact List.mem_singleton_self _
  have hlength : salutation.leading.length = 1 := by decide +kernel
  obtain ⟨-, -, -, hiff⟩ := textFindings_eq_due_iff _ _ _ salutation
    (attributeBindings_card _ _) hmem (by decide +kernel) (by simp [hlength]) (by simp [hlength])
  exact ⟨by decide +kernel, hiff.2 ⟨hlength, by decide +kernel⟩⟩

/-- Two bindings in curly brackets. -/
def fullName : Compound where
  start := []
  segments :=
    [⟨.curly, "first".toList, " ".toList, by decide, by decide⟩,
      ⟨.curly, "last".toList, [], by decide, by decide⟩]
  isPlain := by decide
  segments_ne_nil := by simp

def fullNameText : String := "\x7b\x7bfirst\x7d\x7d \x7b\x7blast\x7d\x7d"

/-- With both names declared nothing is due, and all between the outer brackets is reported. -/
theorem check_fullName :
    fullNameText.toList = fullName.chars ∧
    dueFindings (cardComponent ["first", "last"]) (cardTextAt fullNameText) fullName = [] ∧
    check (card fullNameText ["first", "last"]) =
      [undeclaredAt (cardComponent ["first", "last"]) (cardTextAt fullNameText)
        "first\x7d\x7d \x7b\x7blast"] := by
  refine ⟨by decide +kernel, by decide +kernel, ?_⟩
  rw [check_card, textFindings, attributeBindings_card]
  decide +kernel

end ComponentLint.Rule.BoundVariables
