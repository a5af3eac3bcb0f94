import ComponentLint.Registration
import Mathlib

/-!
Registrations read back.

What an object literal registers is told by its members alone, each by its key and the kind of its
value. Relations between syntax nodes and what they say, from the options of a property up to the
members of the literal, state this without the order in which cases are tried; the reader agrees
with them at every level.
-/

namespace ComponentLint.Registration

open Script (Node)
open Markup (Place)

/-! ### Strings, keys and members -/

/-- A string literal: the text between two quotes, as it is written. -/
def IsString (s : Script) (n : Node) (t : String) : Prop :=
  n.kind = "string" ∧ ∃ opening closing : Char,
    s.textOf n = .ok (String.ofList (opening :: (t.toList ++ [closing])))

/-- The kinds of keys that spell a name. -/
def namingKinds : List String := ["property_identifier", "number", "string"]

/-- A key spells a name, which a string has between its quotes. -/
def Spells (s : Script) (key : Node) (name : String) : Prop :=
  key.kind ∈ ["property_identifier", "number"] ∧ s.textOf key = .ok name ∨ IsString s key name

structure IsPair (s : Script) (n key : Node) (name : String) (value : Node) : Prop where
  kind_eq : n.kind = "pair"
  key_eq : n.child? "key" = some key
  value_eq : n.child? "value" = some value
  spells : Spells s key name

structure IsMethod (s : Script) (n key : Node) (name : String) : Prop where
  kind_eq : n.kind = "method_definition"
  name_eq : n.child? "name" = some key
  spells : Spells s key name

/-- A node without a name: a computed key spells none, and comments, spreads and shorthand members
have no key at all. -/
def IsNameless (n : Node) : Prop :=
  (n.kind = "pair" → ∀ key, n.child? "key" = some key → key.kind ∉ namingKinds) ∧
    (n.kind = "method_definition" → ∀ key, n.child? "name" = some key → key.kind ∉ namingKinds)

variable {s : Script} {n key v : Node} {name t : String}

lemma stringValue_of_isString (h : IsString s n t) : stringValue s n = .ok (some t) := by
  obtain ⟨hkind, opening, closing, htext⟩ := h
  have hunquote : Script.unquote (String.ofList (opening :: (t.toList ++ [closing]))) = t := by
    rw [Script.unquote, String.toList_ofList, List.drop_one, List.tail_cons, List.dropLast_concat,
      String.ofList_toList]
  rw [stringValue, if_pos hkind, htext, Except.map, hunquote]

lemma stringValue_of_ne (h : n.kind ≠ "string") : stringValue s n = .ok none := by
  rw [stringValue, if_neg h]

lemma keyName_of_spells (h : Spells s key name) : keyName s key = .ok (some name) := by
  rw [keyName]
  rcases h with ⟨hkind, htext⟩ | hstring
  · rw [if_pos (by simpa using hkind), htext]
    rfl
  · have hkind : ¬(key.kind = "property_identifier" ∨ key.kind = "number") := by
      rw [hstring.1]
      decide
    rw [if_neg hkind, stringValue_of_isString hstring]

lemma keyName_of_not_mem (h : key.kind ∉ namingKinds) : keyName s key = .ok none := by
  simp only [namingKinds, List.mem_cons, List.not_mem_nil, or_false, not_or] at h
  rw [keyName, if_neg (by tauto), stringValue_of_ne h.2.2]

lemma IsPair.member?_eq (h : IsPair s n key name v) :
    member? s n = .ok (some ⟨name, key, some v⟩) := by
  simp [member?, h.kind_eq, h.key_eq, h.value_eq, keyName_of_spells h.spells, bind, Except.bind,
    pure, Except.pure]

lemma IsMethod.member?_eq (h : IsMethod s n key name) :
    member? s n = .ok (some ⟨name, key, none⟩) := by
  simp [member?, h.kind_eq, h.name_eq, keyName_of_spells h.spells, bind, Except.bind,
    pure, Except.pure]

lemma IsNameless.member?_eq (h : IsNameless n) : member? s n = .ok none := by
  obtain ⟨hpair, hmethod⟩ := h
  rw [member?]
  by_cases hkind : n.kind = "pair"
  · cases hkey : n.child? "key" with
    | none => simp [hkind, pure, Except.pure]
    | some key =>
      simp [hkind, keyName_of_not_mem (hpair hkind key hkey), bind, Except.bind, pure,
        Except.pure]
  · by_cases hkind' : n.kind = "method_definition"
    · cases hkey : n.child? "name" with
      | none => simp [hkind', pure, Except.pure]
      | some key =>
        simp [hkind', keyName_of_not_mem (hmethod hkind' key hkey), bind, Except.bind, pure,
          Except.pure]
    · simp [hkind, hkind', pure, Except.pure]

/-- If each node is a member or none, so that a relation holds, the members of all are read. -/
lemma exists_members {β : Type} {Says : Node → β → Prop} {Reads : Option Member → β → Prop}
    (hread : ∀ n b, Says n b → ∃ o, member? s n = .ok o ∧ Reads o b) {ns : List Node} {bs : List β}
    (h : List.Forall₂ Says ns bs) :
    ∃ os : List (Option Member), membersOf s ns = .ok (os.flatMap Option.toList) ∧
      List.Forall₂ Reads os bs := by
  induction h with
  | nil => exact ⟨[], rfl, .nil⟩
  | @cons n b ns bs hn _ ih =>
    obtain ⟨o, hmember, ho⟩ := hread n b hn
    obtain ⟨os, hmembers, hos⟩ := ih
    refine ⟨o :: os, ?_, .cons ho hos⟩
    rw [membersOf, hmember, hmembers]
    rfl

/-! ### The options of a property -/

/-- What a member of the options of a property says. -/
inductive Choice where
  | type (name : String)
  | observer (name : String) (position : Position)
  | other

inductive SaysChoice (s : Script) : Node → Choice → Prop
  | type {n key v : Node} {t : String} (h : IsPair s n key "type" v) (hkind : v.kind = "identifier")
      (htext : s.textOf v = .ok t) : SaysChoice s n (.type t)
  | observer {n key v : Node} {t : String} (h : IsPair s n key "observer" v)
      (hstring : IsString s v t) : SaysChoice s n (.observer t (s.positionOf v))
  | other {n key v : Node} {name : String} (h : IsPair s n key name v)
      (htype : ¬(name = "type" ∧ v.kind = "identifier"))
      (hobserver : ¬(name = "observer" ∧ v.kind = "string")) : SaysChoice s n .other
  | method {n key : Node} {name : String} (h : IsMethod s n key name) : SaysChoice s n .other
  | nameless {n : Node} (h : IsNameless n) : SaysChoice s n .other

namespace Choice

def type? : Choice → Option String
  | type name => some name
  | _ => none

def observer? : Choice → Option (String × Position)
  | observer name position => some (name, position)
  | _ => none

end Choice

/-- The property with these options: the last type and the last observer count. -/
def ofChoices (p : Property) (cs : List Choice) : Property :=
  { p with
    type := ((cs.filterMap Choice.type?).getLast?).getD p.type
    observer := ((cs.filterMap Choice.observer?).getLast?.map (·.1)).or p.observer
    observerPosition :=
      ((cs.filterMap Choice.observer?).getLast?.map (·.2)).or p.observerPosition }

lemma ofChoices_cons (p : Property) (c : Choice) (cs : List Choice) :
    ofChoices p (c :: cs) = ofChoices (ofChoices p [c]) cs := by
  cases c with
  | type name => simp [ofChoices, Choice.type?, Choice.observer?, List.getLast?_cons]
  | observer name position =>
    cases h : (cs.filterMap Choice.observer?).getLast? <;>
      simp [ofChoices, Choice.type?, Choice.observer?, List.getLast?_cons, h]
  | other => rfl

/-- A member, if there is one, is read as an option. -/
def ReadsChoice (s : Script) (o : Option Member) (c : Choice) : Prop :=
  ∀ p, o.toList.foldlM (withOption s) p = .ok (ofChoices p [c])

lemma SaysChoice.reads {c : Choice} (h : SaysChoice s n c) :
    ∃ o, member? s n = .ok o ∧ ReadsChoice s o c := by
  cases h with
  | type h hkind htext =>
    refine ⟨_, h.member?_eq, fun p => ?_⟩
    simp [withOption, hkind, htext, bind, Except.bind, pure, Except.pure, ofChoices, Choice.type?,
      Choice.observer?]
  | observer h hstring =>
    refine ⟨_, h.member?_eq, fun p => ?_⟩
    simp [withOption, stringValue_of_isString hstring, bind, Except.bind, pure, Except.pure,
      ofChoices, Choice.type?, Choice.observer?]
  | @other key v name h htype hobserver =>
    refine ⟨_, h.member?_eq, fun p => ?_⟩
    have hstring : name = "observer" → stringValue s v = .ok none := fun hname =>
      stringValue_of_ne fun hkind => hobserver ⟨hname, hkind⟩
    by_cases hname : name = "observer"
    · simp [withOption, hname, hstring hname, bind, Except.bind, pure, Except.pure, ofChoices,
        Choice.type?, Choice.observer?]
    · simp [withOption, htype, hname, bind, Except.bind, pure, Except.pure, ofChoices,
        Choice.type?, Choice.observer?]
  | method h => exact ⟨_, h.member?_eq, fun p => rfl⟩
  | nameless h => exact ⟨_, h.member?_eq, fun p => rfl⟩

/-- The options of a property are read one after the other. -/
lemma foldlM_withOption {ns : List Node} {cs : List Choice}
    (h : List.Forall₂ (SaysChoice s) ns cs) (p : Property) :
    ∃ ms, membersOf s ns = .ok ms ∧ ms.foldlM (withOption s) p = .ok (ofChoices p cs) := by
  obtain ⟨os, hmembers, hos⟩ := exists_members (fun _ _ h => h.reads) h
  refine ⟨_, hmembers, ?_⟩
  clear hmembers h
  induction hos generalizing p with
  | nil => rfl
  | @cons o c os cs ho _ ih =>
    rw [List.flatMap_cons, List.foldlM_append, ho p]
    exact (ih (ofChoices p [c])).trans (congrArg _ (ofChoices_cons p c cs).symm)

/-! ### The entries of `properties` -/

/-- The function a member with a key declares. -/
def functionAt (s : Script) (key : Node) (name : String) : Property :=
  { name := name, type := "Function", position := some (s.positionOf key) }

/-- The property a node declares among the entries of `properties`, if it has a name: by its type
alone, by options, as a function, or without anything that says more of it. -/
inductive SaysEntry (s : Script) : Node → Option Property → Prop
  | type {n key v : Node} {name t : String} (h : IsPair s n key name v)
      (hkind : v.kind = "identifier") (htext : s.textOf v = .ok t) :
      SaysEntry s n (some { name := name, type := t, position := some (s.positionOf key) })
  | options {n key v : Node} {name : String} {cs : List Choice} (h : IsPair s n key name v)
      (hkind : v.kind = "object") (hoptions : List.Forall₂ (SaysChoice s) v.namedChildren cs) :
      SaysEntry s n (some (ofChoices { name := name, position := some (s.positionOf key) } cs))
  | function {n key v : Node} {name : String} (h : IsPair s n key name v)
      (hkind : v.kind ∈ functionKinds) : SaysEntry s n (some (functionAt s key name))
  | method {n key : Node} {name : String} (h : IsMethod s n key name) :
      SaysEntry s n (some (functionAt s key name))
  | plain {n key v : Node} {name : String} (h : IsPair s n key name v)
      (hkind : v.kind ∉ "identifier" :: "object" :: functionKinds) :
      SaysEntry s n (some { name := name, position := some (s.positionOf key) })
  | nameless {n : Node} (h : IsNameless n) : SaysEntry s n none

def ReadsEntry (s : Script) (o : Option Member) (p : Option Property) : Prop :=
  o.toList.mapM (declared s) = .ok p.toList

lemma not_mem_functionKinds :
    "identifier" ∉ functionKinds ∧ "object" ∉ functionKinds ∧ "array" ∉ functionKinds := by
  decide

lemma SaysEntry.reads {p : Option Property} (h : SaysEntry s n p) :
    ∃ o, member? s n = .ok o ∧ ReadsEntry s o p := by
  have hsingle : ∀ {m : Member} {p : Property}, declared s m = .ok p →
      ReadsEntry s (some m) (some p) := by
    intro m p hdeclared
    rw [ReadsEntry, Option.toList_some, List.mapM_cons, List.mapM_nil, hdeclared]
    rfl
  cases h with
  | @type key v name t h hkind htext =>
    refine ⟨_, h.member?_eq, hsingle ?_⟩
    simp [declared, not_mem_functionKinds, hkind, htext, bind, Except.bind, pure, Except.pure]
  | @options key v name cs h hkind hoptions =>
    refine ⟨_, h.member?_eq, hsingle ?_⟩
    obtain ⟨ms, hmembers, hfold⟩ := foldlM_withOption hoptions
      { name := name, position := some (s.positionOf key) }
    simpa [declared, not_mem_functionKinds, hkind, members, hmembers, bind, Except.bind, pure,
      Except.pure] using hfold
  | function h hkind =>
    refine ⟨_, h.member?_eq, hsingle ?_⟩
    simp [declared, hkind, methodOf, functionAt, pure, Except.pure]
  | method h => exact ⟨_, h.member?_eq, hsingle rfl⟩
  | plain h hkind =>
    refine ⟨_, h.member?_eq, hsingle ?_⟩
    simp only [List.mem_cons, not_or] at hkind
    simp [declared, hkind, pure, Except.pure]
  | nameless h => exact ⟨_, h.member?_eq, rfl⟩

/-- The entries of `properties` declare properties in their order. -/
lemma mapM_declared {ns : List Node} {ps : List (Option Property)}
    (h : List.Forall₂ (SaysEntry s) ns ps) :
    ∃ ms, membersOf s ns = .ok ms ∧ ms.mapM (declared s) = .ok ps.reduceOption := by
  obtain ⟨os, hmembers, hos⟩ := exists_members (fun _ _ h => h.reads) h
  refine ⟨_, hmembers, ?_⟩
  clear hmembers h
  induction hos with
  | nil => rfl
  | @cons o p os ps ho _ ih =>
    rw [List.flatMap_cons, List.mapM_append, ho, ih]
    cases p <;> rfl

/-! ### The elements of `observers` -/

/-- The observer an element declares, if it is a string. -/
inductive SaysObserver (s : Script) : Node → Option Observer → Prop
  | string {n : Node} {t : String} (h : IsString s n t) :
      SaysObserver s n (some { expression := t, position := some (s.positionOf n) })
  | other {n : Node} (h : n.kind ≠ "string") : SaysObserver s n none

lemma observersOf_eq {ns : List Node} {os : List (Option Observer)}
    (h : List.Forall₂ (SaysObserver s) ns os) : observersOf s ns = .ok os.reduceOption := by
  induction h with
  | nil => rfl
  | @cons n o ns os hn _ ih =>
    rw [observersOf, ih]
    cases hn with
    | string hstring =>
      rw [stringValue_of_isString hstring]
      rfl
    | other hkind =>
      rw [stringValue_of_ne hkind]
      rfl

/-! ### The members of a registration -/

/-- A member that says nothing: it has no name, or no meaning is given to its name and the kind of
its value. -/
def IsSkipped (s : Script) (n : Node) : Prop :=
  IsNameless n ∨ ∃ key name v, IsPair s n key name v ∧ name ≠ "is" ∧
    ¬(name = "properties" ∧ v.kind = "object") ∧ ¬(name = "observers" ∧ v.kind = "array") ∧
    v.kind ∉ functionKinds

/-- What a member of a registration says. A method may have any name, and so may a function, but
for the name of the tag. -/
inductive SaysMember (s : Script) : Node → Statement → Prop
  | tag {n key v : Node} {t : String} (h : IsPair s n key "is" v) (hstring : IsString s v t) :
      SaysMember s n (.tag (some t))
  | properties {n key v : Node} {ps : List (Option Property)} (h : IsPair s n key "properties" v)
      (hkind : v.kind = "object") (hentries : List.Forall₂ (SaysEntry s) v.namedChildren ps) :
      SaysMember s n (.properties ps.reduceOption)
  | observers {n key v : Node} {os : List (Option Observer)} (h : IsPair s n key "observers" v)
      (hkind : v.kind = "array") (helements : List.Forall₂ (SaysObserver s) v.namedChildren os) :
      SaysMember s n (.observers os.reduceOption)
  | method {n key : Node} {name : String} (h : IsMethod s n key name) :
      SaysMember s n (.properties [functionAt s key name])
  | function {n key v : Node} {name : String} (h : IsPair s n key name v) (hname : name ≠ "is")
      (hkind : v.kind ∈ functionKinds) : SaysMember s n (.properties [functionAt s key name])
  | skipped {n : Node} (h : IsSkipped s n) : SaysMember s n (.properties [])

namespace Statement

def tag? : Statement → Option String
  | tag name => some (name.getD "")
  | _ => none

def declares : Statement → List Property
  | properties ps => ps
  | _ => []

def observes : Statement → List Observer
  | observers os => os
  | _ => []

end Statement

/-- The tag that is said last. -/
def lastTag? (said : List Statement) : Option String := (said.filterMap Statement.tag?).getLast?

/-- Statements add up to the last tag, all properties and all observers. -/
lemma foldl_apply (said : List Statement) (c : Component) :
    said.foldl apply c =
      { c with
        tagName := (lastTag? said).getD c.tagName
        properties := c.properties ++ said.flatMap Statement.declares
        observers := c.observers ++ said.flatMap Statement.observes } := by
  induction said generalizing c with
  | nil => simp [lastTag?]
  | cons st said ih =>
    rw [List.foldl_cons, ih]
    cases st <;>
      simp [apply, lastTag?, Statement.tag?, Statement.declares, Statement.observes,
        List.getLast?_cons]

/-- A member, if there is one, makes a statement, or one that adds nothing. -/
def ReadsMember (s : Script) (o : Option Member) (st : Statement) : Prop :=
  ∃ sts, o.toList.mapM (statement s) = .ok sts ∧ ∀ c, sts.foldl apply c = apply c st

lemma readsMember_of_statement {m : Member} {st : Statement} (h : statement s m = .ok st) :
    ReadsMember s (some m) st := by
  refine ⟨[st], ?_, fun c => rfl⟩
  rw [Option.toList_some, List.mapM_cons, List.mapM_nil, h]
  rfl

lemma readsMember_of_skipped (h : IsSkipped s n) :
    ∃ o, member? s n = .ok o ∧ ReadsMember s o (.properties []) := by
  rcases h with hnameless | ⟨key, name, v, hpair, his, hproperties, hobservers, hfunction⟩
  · refine ⟨_, hnameless.member?_eq, [], rfl, fun c => ?_⟩
    rw [apply, List.append_nil, List.foldl_nil]
  · refine ⟨_, hpair.member?_eq, readsMember_of_statement ?_⟩
    simp [statement, his, hproperties, hobservers, hfunction, pure, Except.pure]

lemma SaysMember.reads {st : Statement} (h : SaysMember s n st) :
    ∃ o, member? s n = .ok o ∧ ReadsMember s o st := by
  cases h with
  | tag h hstring =>
    refine ⟨_, h.member?_eq, readsMember_of_statement ?_⟩
    simp [statement, stringValue_of_isString hstring, bind, Except.bind, pure, Except.pure]
  | properties h hkind hentries =>
    refine ⟨_, h.member?_eq, readsMember_of_statement ?_⟩
    obtain ⟨ms, hmembers, hdeclared⟩ := mapM_declared hentries
    simp [statement, hkind, members, hmembers, hdeclared, bind, Except.bind, pure, Except.pure]
  | observers h hkind helements =>
    refine ⟨_, h.member?_eq, readsMember_of_statement ?_⟩
    simp [statement, hkind, observersOf_eq helements, bind, Except.bind, pure, Except.pure]
  | method h => exact ⟨_, h.member?_eq, readsMember_of_statement rfl⟩
  | @function key v name h hname hkind =>
    refine ⟨_, h.member?_eq, readsMember_of_statement ?_⟩
    have hobject : v.kind ≠ "object" := by
      rintro hobject
      exact not_mem_functionKinds.2.1 (hobject ▸ hkind)
    have harray : v.kind ≠ "array" := by
      rintro harray
      exact not_mem_functionKinds.2.2 (harray ▸ hkind)
    simp [statement, hname, hobject, harray, hkind, methodOf, functionAt, pure, Except.pure]
  | skipped h => exact readsMember_of_skipped h

/-- The statements of a registration are read one after the other. -/
lemma mapM_statement {ns : List Node} {said : List Statement}
    (h : List.Forall₂ (SaysMember s) ns said) :
    ∃ ms sts, membersOf s ns = .ok ms ∧ ms.mapM (statement s) = .ok sts ∧
      ∀ c, sts.foldl apply c = said.foldl apply c := by
  obtain ⟨os, hmembers, hos⟩ := exists_members (fun _ _ h => h.reads) h
  suffices hsts : ∃ sts, (os.flatMap Option.toList).mapM (statement s) = .ok sts ∧
      ∀ c, sts.foldl apply c = said.foldl apply c by
    obtain ⟨sts, hstatements, hfold⟩ := hsts
    exact ⟨_, sts, hmembers, hstatements, hfold⟩
  clear hmembers h
  induction hos with
  | nil => exact ⟨[], rfl, fun c => rfl⟩
  | @cons o st os said ho _ ih =>
    obtain ⟨first, hfirst, hone⟩ := ho
    obtain ⟨rest, hrest, hall⟩ := ih
    refine ⟨first ++ rest, ?_, fun c => ?_⟩
    · rw [List.flatMap_cons, List.mapM_append, hfirst, hrest]
      rfl
    · rw [List.foldl_append, hone, hall, List.foldl_cons]

/-! ### Registrations -/

/-- The component of a registration before any of its members is read. -/
def blank (s : Script) (element : Place) (literal : Node) : Component where
  tagName := ""
  script := some element
  contentHref := s.source.getD ""
  position := some (s.positionOf literal)

/-- The component statements add up to, if it has a tag. -/
def registered (c : Component) (sts : List Statement) : Option Component :=
  if (sts.foldl apply c).tagName = "" then none else some (sts.foldl apply c)

lemma component?_eq (s : Script) (element : Place) (literal : Node) :
    component? s element literal = (membersOf s literal.namedChildren).bind fun ms =>
      (ms.mapM (statement s)).bind fun sts => .ok (registered (blank s element literal) sts) :=
  rfl

lemma membersOf_append (s : Script) (xs ys : List Node) : membersOf s (xs ++ ys) =
    (membersOf s xs).bind fun a => (membersOf s ys).bind fun b => .ok (a ++ b) := by
  induction xs with
  | nil => cases h : membersOf s ys <;> simp [membersOf, h, Except.bind]
  | cons n xs ih =>
    rw [List.cons_append, membersOf, ih, membersOf]
    cases member? s n <;> cases membersOf s xs <;> cases membersOf s ys <;>
      simp [bind, Except.bind, pure, Except.pure]

/-- A skipped member can be put in or left out. -/
lemma component?_of_skipped (element : Place) {l l' : Node} {before after : List Node}
    (h : IsSkipped s n) (hl : l.namedChildren = before ++ n :: after)
    (hl' : l'.namedChildren = before ++ after) (hstart : l.start = l'.start) :
    component? s element l = component? s element l' := by
  obtain ⟨o, hmember, sts, hstatements, hfold⟩ := readsMember_of_skipped h
  have hnone : ∀ c, sts.foldl apply c = c := by
    intro c
    rw [hfold, apply, List.append_nil]
  have hblank : blank s element l = blank s element l' := by
    simp only [blank, Script.positionOf, Script.locationOf, hstart]
  have hcons : membersOf s (n :: after) =
      (membersOf s after).bind fun b => .ok (o.toList ++ b) := by
    rw [membersOf, hmember]
    rfl
  rw [component?_eq, component?_eq, hl, hl', membersOf_append, membersOf_append, hcons, hblank]
  cases membersOf s before with
  | error e => rfl
  | ok a =>
    cases membersOf s after with
    | error e => rfl
    | ok b =>
      simp only [Except.bind, List.mapM_append, hstatements]
      cases a.mapM (statement s) with
      | error e => rfl
      | ok sts₁ =>
        cases b.mapM (statement s) with
        | error e => rfl
        | ok sts₂ =>
          simp only [bind, Except.bind, pure, Except.pure, registered, List.foldl_append, hnone]

/-- **Registrations read back.** If each member of an object literal is the tag as a string, an
object of properties, an array of observers, a method, a function, or skipped, then the component
it registers can be read: it has the last of the tags, the properties of all members in their order,
and the observers of all arrays. There is no component without a tag. A skipped member can be put
into a literal, or left out, with the same result. -/
theorem component?_of_members (s : Script) (element : Place) (literal : Node)
    (said : List Statement) (h : List.Forall₂ (SaysMember s) literal.namedChildren said) :
    (∀ tag, lastTag? said = some tag → tag ≠ "" →
      component? s element literal = .ok (some
        { tagName := tag
          properties := said.flatMap Statement.declares
          observers := said.flatMap Statement.observes
          script := some element
          contentHref := s.source.getD ""
          position := some (s.positionOf literal) })) ∧
    ((lastTag? said).getD "" = "" → component? s element literal = .ok none) ∧
    ∀ n, IsSkipped s n → ∀ (l l' : Node) (before after : List Node),
      l.namedChildren = before ++ n :: after → l'.namedChildren = before ++ after →
        l.start = l'.start → component? s element l = component? s element l' := by
  obtain ⟨ms, sts, hmembers, hstatements, hfold⟩ := mapM_statement h
  have hread : component? s element literal =
      .ok (registered (blank s element literal) said) := by
    rw [component?_eq, hmembers, Except.bind, hstatements, Except.bind, registered, hfold,
      registered]
  refine ⟨fun tag htag hne => ?_, fun hnone => ?_, fun n hn l l' before after hl hl' hstart =>
    component?_of_skipped element hn hl hl' hstart⟩
  · rw [hread, registered, foldl_apply, htag, Option.getD_some, if_neg hne]
    rfl
  · rw [hread, registered, foldl_apply]
    exact congrArg _ (if_pos hnone)

/-! ### A registration with members of every kind -/

def keyAt (start stop : ℕ) : Node := .mk "property_identifier" start stop (some "key") true []

def stringAt (start stop : ℕ) : Node := .mk "string" start stop (some "value") true []

def pairOf (key value : Node) : Node := .mk "pair" key.start value.stop none true [key, value]

def tagPair : Node := pairOf (keyAt 9 11) (stringAt 13 18)

def typeName : Node := .mk "identifier" 46 53 (some "value") true []

def openOptions : Node :=
  .mk "object" 39 70 (some "value") true
    [pairOf (keyAt 40 44) typeName, pairOf (keyAt 55 63) (stringAt 65 69)]

def openObject : Node :=
  .mk "object" 32 71 (some "value") true [pairOf (keyAt 33 37) openOptions]

def spreadBase : Node := .mk "spread_element" 73 80 none true [.mk "identifier" 76 80 none true []]

def observersArray : Node := .mk "array" 93 105 (some "value") true [stringAt 94 104]

def goName : Node := .mk "property_identifier" 107 109 (some "name") true []

def goMethod : Node := .mk "method_definition" 107 114 none true [goName]

def toggleLiteral : Node :=
  .mk "object" 8 115 none true
    [tagPair, pairOf (keyAt 20 30) openObject, spreadBase, pairOf (keyAt 82 91) observersArray,
     goMethod]

def toggleScript : Script where
  root := toggleLiteral
  text :=
    "Polymer(\x7bis: 'x-a', properties: \x7bopen: \x7btype: Boolean, observer: 'go'\x7d\x7d, " ++
      "...base, observers: ['go(open)'], go() \x7b\x7d\x7d)"

def toggleElement : Place := ⟨"x-a.html", .node (.element ⟨1, 0⟩ "script" [] []), []⟩

def toggleOpen : Property where
  name := "open"
  type := "Boolean"
  observer := some "go"
  position := some (toggleScript.positionOf (keyAt 33 37))
  observerPosition := some (toggleScript.positionOf (stringAt 65 69))

def toggleObserver : Observer where
  expression := "go(open)"
  position := some (toggleScript.positionOf (stringAt 94 104))

def toggleSaid : List Statement :=
  [.tag (some "x-a"), .properties [toggleOpen], .properties [], .observers [toggleObserver],
   .properties [functionAt toggleScript goName "go"]]

/-- The words of the script, each after the byte at which it starts and the one at which it
stops. -/
def toggleWords : List (ℕ × ℕ × String) :=
  [(9, 11, "is"), (13, 18, "'x-a'"), (20, 30, "properties"), (33, 37, "open"), (40, 44, "type"),
   (46, 53, "Boolean"), (55, 63, "observer"), (65, 69, "'go'"), (82, 91, "observers"),
   (94, 104, "'go(open)'"), (107, 109, "go")]

section Toggle

variable {n key v : Node} {name t : String} {start stop : ℕ}

lemma textOf_toggle (h : (n.start, n.stop, t) ∈ toggleWords) : toggleScript.textOf n = .ok t := by
  have hslices : ∀ word ∈ toggleWords, Script.slice? toggleScript.text.toList word.1 word.2.1 =
      some word.2.2.toList := by decide +kernel
  rw [Script.textOf, hslices _ h]
  exact congrArg _ String.ofList_toList

lemma isPair_toggle (hvalue : v.field = some "value") (h : (start, stop, name) ∈ toggleWords) :
    IsPair toggleScript (pairOf (keyAt start stop) v) (keyAt start stop) name v := by
  refine ⟨rfl, rfl, ?_, Or.inl ⟨List.mem_cons_self, textOf_toggle h⟩⟩
  have hkey : (keyAt start stop).field = some "key" := rfl
  simp [Node.child?, pairOf, Node.children, hkey, hvalue]

lemma isString_toggle
    (h : (start, stop, String.ofList ('\'' :: (t.toList ++ ['\'']))) ∈ toggleWords) :
    IsString toggleScript (stringAt start stop) t :=
  ⟨rfl, '\'', '\'', textOf_toggle h⟩

lemma saysEntry_open :
    SaysEntry toggleScript (pairOf (keyAt 33 37) openOptions) (some toggleOpen) := by
  have htype : SaysChoice toggleScript (pairOf (keyAt 40 44) typeName) (.type "Boolean") :=
    .type (isPair_toggle rfl (by decide +kernel)) rfl (textOf_toggle (by decide +kernel))
  have hobserver : SaysChoice toggleScript (pairOf (keyAt 55 63) (stringAt 65 69))
      (.observer "go" (toggleScript.positionOf (stringAt 65 69))) :=
    .observer (isPair_toggle rfl (by decide +kernel)) (isString_toggle (by decide +kernel))
  have hpair : IsPair toggleScript _ (keyAt 33 37) "open" openOptions :=
    isPair_toggle rfl (by decide +kernel)
  exact .options hpair rfl (.cons htype (.cons hobserver .nil))

lemma saysMember_toggleLiteral :
    List.Forall₂ (SaysMember toggleScript) toggleLiteral.namedChildren toggleSaid := by
  have htag : SaysMember toggleScript tagPair (.tag (some "x-a")) :=
    .tag (isPair_toggle rfl (by decide +kernel)) (isString_toggle (by decide +kernel))
  have hobject : IsPair toggleScript _ (keyAt 20 30) "properties" openObject :=
    isPair_toggle rfl (by decide +kernel)
  have hproperties : SaysMember toggleScript _ (.properties [toggleOpen]) :=
    .properties hobject rfl (.cons saysEntry_open .nil)
  have harray : IsPair toggleScript _ (keyAt 82 91) "observers" observersArray :=
    isPair_toggle rfl (by decide +kernel)
  have hobservers : SaysMember toggleScript _ (.observers [toggleObserver]) :=
    .observers harray rfl (.cons (.string (isString_toggle (by decide +kernel))) .nil)
  have hgo : SaysMember toggleScript goMethod
      (.properties [functionAt toggleScript goName "go"]) :=
    .method ⟨rfl, rfl, Or.inl ⟨by decide, textOf_toggle (by decide +kernel)⟩⟩
  exact .cons htag (.cons hproperties (.cons (.skipped (Or.inl ⟨by decide, by decide⟩))
    (.cons hobservers (.cons hgo .nil))))

end Toggle

/-- The registration of a toggle is read, with the spread and without it. -/
theorem component?_toggleLiteral :
    List.Forall₂ (SaysMember toggleScript) toggleLiteral.namedChildren toggleSaid ∧
    component? toggleScript toggleElement toggleLiteral = .ok (some
      { tagName := "x-a"
        properties := [toggleOpen, functionAt toggleScript goName "go"]
        observers := [toggleObserver]
        script := some toggleElement
        position := some (toggleScript.positionOf toggleLiteral) }) ∧
    component? toggleScript toggleElement toggleLiteral =
      component? toggleScript toggleElement
        (.mk "object" 8 115 none true [tagPair, pairOf (keyAt 20 30) openObject,
          pairOf (keyAt 82 91) observersArray, goMethod]) := by
  obtain ⟨hread, -, hskipped⟩ := component?_of_members toggleScript toggleElement toggleLiteral
    toggleSaid saysMember_toggleLiteral
  refine ⟨saysMember_toggleLiteral, hread "x-a" rfl (by decide), ?_⟩
  exact hskipped spreadBase (Or.inl ⟨by decide, by decide⟩) _ _
    [tagPair, pairOf (keyAt 20 30) openObject] [pairOf (keyAt 82 91) observersArray, goMethod]
    rfl rfl rfl

end ComponentLint.Registration
