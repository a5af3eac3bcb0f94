import ComponentLint.Proofs.NodeText
import ComponentLint.Registration
import Mathlib

/-!
The components of a script can always be read.

Registration looks at the text of keys, strings and names. On boundaries all of these can be read,
so every step gives a result if the grammar keeps to boundaries.
-/

namespace ComponentLint

open Std.Do

set_option mvcgen.warning false

variable {α β : Type}

/-- A step gives a result, and the result has a property. -/
abbrev Gives (x : Except Fault α) (P : α → Prop) : Prop := ⦃⌜True⌝⦄ x ⦃⇓ a => ⌜P a⌝⦄

namespace Gives

lemma exists_ok {x : Except Fault α} {P : α → Prop} (h : Gives x P) : ∃ a, x = .ok a ∧ P a := by
  have hpost := h trivial
  cases x with
  | error e => exact hpost.elim
  | ok a => exact ⟨a, rfl, hpost⟩

@[spec] lemma map {f : α → β} {x : Except Fault α} (h : Gives x fun _ => True) :
    Gives (x.map f) fun _ => True := by
  obtain ⟨a, rfl, -⟩ := h.exists_ok
  exact fun _ => trivial

@[spec] lemma mapM {f : α → Except Fault β} {as : List α}
    (h : ∀ a ∈ as, Gives (f a) fun _ => True) : Gives (as.mapM f) fun _ => True := by
  induction as with
  | nil => mvcgen [List.mapM_nil]
  | cons a as ih =>
    have hhead := h a List.mem_cons_self
    have htail := ih fun b hb => h b (List.mem_cons_of_mem a hb)
    rw [List.mapM_cons]
    mvcgen [hhead, htail]

end Gives

namespace Registration

open Script (Node)

variable {s : Script} {n : Node}

/-! ### Object literals -/

@[spec] lemma textOf_gives (h : s.OnBoundaries n) : Gives (s.textOf n) fun _ => True := by
  rw [Script.textOf_eq h]
  exact fun _ => trivial

@[spec] lemma stringValue_gives (h : s.OnBoundaries n) :
    Gives (stringValue s n) fun _ => True := by
  mvcgen [stringValue]

@[spec] lemma keyName_gives (h : s.OnBoundaries n) : Gives (keyName s n) fun _ => True := by
  mvcgen [keyName]

/-- The value of a member, which is the part of it that is looked at again, falls on boundaries. -/
def Member.OnBoundaries (s : Script) (m : Member) : Prop := ∀ v, m.value = some v → s.OnBoundaries v

lemma namedChild_onBoundaries {c : Node} (h : s.OnBoundaries n) (hc : c ∈ n.namedChildren) :
    s.OnBoundaries c :=
  h.child (List.mem_of_mem_filter hc)

attribute [local grind →] Script.OnBoundaries.child? namedChild_onBoundaries

@[spec] lemma member?_gives (h : s.OnBoundaries n) :
    Gives (member? s n) fun o => ∀ m, o = some m → m.OnBoundaries s := by
  mvcgen [member?] with grind [Member.OnBoundaries, Option.map_eq_some_iff]

@[spec] lemma membersOf_gives {ns : List Node} (h : ∀ n ∈ ns, s.OnBoundaries n) :
    Gives (membersOf s ns) fun ms => ∀ m ∈ ms, m.OnBoundaries s := by
  induction ns with
  | nil => exact fun _ _ h => nomatch h
  | cons n ns ih => mvcgen [membersOf, ih] with grind

@[spec] lemma members_gives (h : s.OnBoundaries n) :
    Gives (members s n) fun ms => ∀ m ∈ ms, m.OnBoundaries s :=
  membersOf_gives fun _ hc => namedChild_onBoundaries h hc

/-! ### Components -/

@[spec] lemma withOption_gives (p : Property) {m : Member} (h : m.OnBoundaries s) :
    Gives (withOption s p m) fun _ => True := by
  mvcgen [withOption] with grind [Member.OnBoundaries]

@[spec] lemma declared_gives {m : Member} (h : m.OnBoundaries s) :
    Gives (declared s m) fun _ => True := by
  mvcgen [declared] invariants
  · ⇓ _ => ⌜True⌝
  with grind [Member.OnBoundaries]

@[spec] lemma observersOf_gives {ns : List Node} (h : ∀ n ∈ ns, s.OnBoundaries n) :
    Gives (observersOf s ns) fun _ => True := by
  induction ns with
  | nil => exact fun _ => trivial
  | cons n ns ih => mvcgen [observersOf, ih] with grind

@[spec] lemma statement_gives {m : Member} (h : m.OnBoundaries s) :
    Gives (statement s m) fun _ => True := by
  mvcgen [statement] with grind [Member.OnBoundaries]

@[spec] lemma component?_gives (element : Markup.Place) (h : s.OnBoundaries n) :
    Gives (component? s element n) fun _ => True := by
  mvcgen [component?] with grind

lemma firstArgument_onBoundaries {l : Node} {test : Node → Bool} (h : s.OnBoundaries n)
    (hl : n.namedChildren.head?.filter test = some l) : s.OnBoundaries l :=
  namedChild_onBoundaries h (List.mem_of_mem_head? (Option.filter_eq_some_iff.1 hl).1)

@[spec] lemma literal?_gives (h : s.OnBoundaries n) :
    Gives (literal? s n) fun o => ∀ l, o = some l → s.OnBoundaries l := by
  mvcgen [literal?] with grind [firstArgument_onBoundaries]

@[spec] lemma literalsAt_gives {ns : List Node} (h : ∀ n ∈ ns, s.OnBoundaries n) :
    Gives (literalsAt s ns) fun ls => ∀ l ∈ ls, s.OnBoundaries l := by
  induction ns with
  | nil => exact fun _ _ h => nomatch h
  | cons n ns ih => mvcgen [literalsAt, ih] with grind

lemma visit_onBoundaries {pending : List Node} (h : ∀ n ∈ pending, s.OnBoundaries n) :
    ∀ n ∈ Node.visit pending, s.OnBoundaries n := by
  fun_induction Node.visit pending with
  | case1 => simp
  | case2 n rest ih =>
    have hn := h n List.mem_cons_self
    have hrest := ih (by grind)
    simp_all

@[spec] lemma components_gives (element : Markup.Place) (h : s.OnBoundaries s.root) :
    Gives (components s element) fun _ => True := by
  have hwalk : ∀ n ∈ s.root.walk, s.OnBoundaries n := visit_onBoundaries (by simpa using h)
  mvcgen [components, literals] with grind

/-- **Components can be read from every script that is parsed from its text.** -/
theorem components_ok [Script.Language] (hgrammar : Script.Language.FallsOnBoundaries)
    (hroot : s.root = Script.Language.parse s.text) (element : Markup.Place) :
    ∃ found, components s element = .ok found := by
  obtain ⟨found, hfound, -⟩ := (components_gives element (hgrammar s hroot)).exists_ok
  exact ⟨found, hfound⟩

end Registration

end ComponentLint
