import ComponentLint.Proofs.CallArguments
import ComponentLint.Proofs.IndexLookup
import Mathlib

/-!
Which paths can be followed.

A path is followed part by part. A part in decimal digits numbers a named child, and a part that
is not all digits names a field. Digits that stand for no number lead nowhere: following them
fails. What one part does is stated for `step` and carried over to any path. An index accepts every
path that is not empty, so it can fail at a look-up; it never does exactly if none of the paths in
it has a part of this kind.
-/

namespace ComponentLint

namespace Script.Node

/-! ### One part -/

/-- A part written in digits of any script, superscript and circled ones included. -/
structure IsDigits (part : List Char) : Prop where
  ne_nil : part ≠ []
  digits : ∀ c ∈ part, Text.isDigit c

/-- Digits that stand for no number: one of them has no value, or there are too many. -/
structure Unreadable (part : List Char) : Prop extends IsDigits part where
  excess : (∃ c ∈ part, ¬Text.isDecimal c) ∨ Number.digitLimit < part.length

/-- The number that decimal digits stand for, of which the last one counts the units. -/
structure Numbers (part : List Char) (i : ℕ) : Prop where
  ne_nil : part ≠ []
  length_le : part.length ≤ Number.digitLimit
  value : ∃ values : List ℕ, part.map Text.decimalValue? = values.map some ∧
    Nat.ofDigits 10 values.reverse = i

/-- The child that a part of a path leads to. -/
inductive StepsTo (n : Node) (part : List Char) (c : Node) : Prop where
  | numbered {i : ℕ} (h : Numbers part i) (hc : n.namedChildren[i]? = some c)
  | named (h : ¬IsDigits part) (hc : n.child? (String.ofList part) = some c)

variable {n m c d : Node} {part : List Char} {i : ℕ}

lemma isDigits_iff : IsDigits part ↔ part ≠ [] ∧ part.all Text.isDigit :=
  ⟨fun h => ⟨h.ne_nil, List.all_eq_true.2 h.digits⟩,
    fun h => ⟨h.1, List.all_eq_true.1 h.2⟩⟩

lemma isDigit_of_isDecimal {c : Char} (h : Text.isDecimal c) : Text.isDigit c := by
  rw [Text.isDigit, h, Bool.true_or]

/-- The number is the one that is read from the first digit on. -/
lemma ofDigits_eq_foldl {values : List ℕ}
    (h : part.map Text.decimalValue? = values.map some) :
    Nat.ofDigits 10 values.reverse =
      part.foldl (fun v c => v * 10 + (Text.decimalValue? c).getD 0) 0 := by
  have hvalues : values = part.map fun c => (Text.decimalValue? c).getD 0 := by
    simpa [Function.comp_def] using (congrArg (List.map (·.getD 0)) h).symm
  rw [Nat.ofDigits_eq_foldr, List.foldr_reverse, hvalues, List.foldl_map]
  refine congrArg (fun f => part.foldl f 0) ?_
  funext v c
  rw [Nat.cast_id, mul_comm, add_comm]

lemma exists_values_iff :
    (∃ values : List ℕ, part.map Text.decimalValue? = values.map some) ↔
      part.all Text.isDecimal := by
  rw [List.all_eq_true]
  constructor
  · rintro ⟨values, h⟩ c hc
    have hmem : Text.decimalValue? c ∈ values.map some := h ▸ List.mem_map_of_mem hc
    obtain ⟨v, -, hv⟩ := List.mem_map.1 hmem
    rw [Text.isDecimal, ← hv, Option.isSome_some]
  · intro h
    refine ⟨part.map fun c => (Text.decimalValue? c).getD 0, ?_⟩
    rw [List.map_map]
    refine List.map_congr_left fun c hc => ?_
    obtain ⟨v, hv⟩ := Option.isSome_iff_exists.1 (h c hc)
    rw [Function.comp_apply, hv, Option.getD_some]

lemma numbers_iff : Numbers part i ↔ part ≠ [] ∧
    (part.all Text.isDecimal ∧ part.length ≤ Number.digitLimit) ∧
    part.foldl (fun v c => v * 10 + (Text.decimalValue? c).getD 0) 0 = i := by
  constructor
  · rintro ⟨hne, hlength, values, hvalues, rfl⟩
    exact ⟨hne, ⟨exists_values_iff.1 ⟨values, hvalues⟩, hlength⟩, (ofDigits_eq_foldl hvalues).symm⟩
  · rintro ⟨hne, ⟨hdecimal, hlength⟩, rfl⟩
    obtain ⟨values, hvalues⟩ := exists_values_iff.2 hdecimal
    exact ⟨hne, hlength, values, hvalues, ofDigits_eq_foldl hvalues⟩

lemma Numbers.isDigits (h : Numbers part i) : IsDigits part := by
  obtain ⟨hne, ⟨hdecimal, -⟩, -⟩ := numbers_iff.1 h
  exact ⟨hne, fun c hc => isDigit_of_isDecimal (List.all_eq_true.1 hdecimal c hc)⟩

lemma step_of_numbers (h : Numbers part i) (n : Node) :
    n.step part = .ok n.namedChildren[i]? := by
  obtain ⟨-, hread, hvalue⟩ := numbers_iff.1 h
  rw [step, if_pos (isDigits_iff.1 h.isDigits), if_pos hread, hvalue]

lemma step_of_unreadable (h : Unreadable part) (n : Node) :
    n.step part = .error (.crash .badText) := by
  have hread : ¬(part.all Text.isDecimal ∧ part.length ≤ Number.digitLimit) := by
    rintro ⟨hdecimal, hlength⟩
    rcases h.excess with ⟨c, hc, hother⟩ | hlong
    · exact hother (List.all_eq_true.1 hdecimal c hc)
    · exact hlong.not_ge hlength
  rw [step, if_pos (isDigits_iff.1 h.toIsDigits), if_neg hread]

lemma step_of_not_isDigits (h : ¬IsDigits part) (n : Node) :
    n.step part = .ok (n.child? (String.ofList part)) := by
  rw [step, if_neg (isDigits_iff.not.1 h)]

lemma part_cases (part : List Char) :
    (∃ i, Numbers part i) ∨ Unreadable part ∨ ¬IsDigits part := by
  by_cases h : IsDigits part
  · by_cases hread : part.all Text.isDecimal ∧ part.length ≤ Number.digitLimit
    · exact Or.inl ⟨_, numbers_iff.2 ⟨h.ne_nil, hread, rfl⟩⟩
    · refine Or.inr (Or.inl ⟨h, ?_⟩)
      rw [not_and_or, List.all_eq_true, not_le] at hread
      simpa using hread
  · exact Or.inr (Or.inr h)

lemma step_eq_some_iff : n.step part = .ok (some c) ↔ n.StepsTo part c := by
  constructor
  · intro h
    rcases part_cases part with ⟨i, hi⟩ | hu | hf
    · rw [step_of_numbers hi] at h
      exact .numbered hi (Except.ok.inj h)
    · rw [step_of_unreadable hu] at h
      cases h
    · rw [step_of_not_isDigits hf] at h
      exact .named hf (Except.ok.inj h)
  · rintro (⟨hi, hc⟩ | ⟨hf, hc⟩)
    · rw [step_of_numbers hi, hc]
    · rw [step_of_not_isDigits hf, hc]

lemma step_eq_error_iff {f : Fault} :
    n.step part = .error f ↔ f = .crash .badText ∧ Unreadable part := by
  constructor
  · intro h
    rcases part_cases part with ⟨i, hi⟩ | hu | hf
    · rw [step_of_numbers hi] at h
      cases h
    · rw [step_of_unreadable hu] at h
      cases h
      exact ⟨rfl, hu⟩
    · rw [step_of_not_isDigits hf] at h
      cases h
  · rintro ⟨rfl, hu⟩
    exact step_of_unreadable hu n

/-! ### All parts -/

/-- The parts of a path, between its points. -/
def pathParts (path : String) : List (List Char) := path.toList.splitOn '.'

/-- The descendant that the parts of a path lead to, one after the other. -/
inductive Leads : Node → List (List Char) → Node → Prop
  | here (n : Node) : Leads n [] n
  | step {n c d : Node} {part : List Char} {parts : List (List Char)} (h : n.StepsTo part c)
      (rest : Leads c parts d) : Leads n (part :: parts) d

/-- A path all of whose digits are numbers. -/
def Readable (path : String) : Prop := ∀ part ∈ pathParts path, ¬Unreadable part

variable {parts : List (List Char)} {path : String} {f : Fault}

lemma pathParts_ne_nil (path : String) : pathParts path ≠ [] := List.splitOn_ne_nil _ _

lemma pathParts_append (p q : String) :
    pathParts (p ++ "." ++ q) = pathParts p ++ pathParts q := by
  have hlist : (p ++ "." ++ q).toList = p.toList ++ '.' :: q.toList := by simp
  rw [pathParts, hlist, List.splitOn_append_cons_self]
  rfl

lemma resolve_eq (n : Node) (path : String) : n.resolve path = n.follow (pathParts path) := by
  rw [resolve, Text.splitOn_eq, pathParts]

lemma follow_cons (n : Node) (part : List Char) (parts : List (List Char)) :
    n.follow (part :: parts) =
      n.step part >>= fun found => found.elim (.ok none) (·.follow parts) := by
  rw [follow]
  rcases n.step part with e | (_ | c) <;> rfl

lemma follow_append (n : Node) (parts more : List (List Char)) :
    n.follow (parts ++ more) =
      n.follow parts >>= fun found => found.elim (.ok none) (·.follow more) := by
  induction parts generalizing n with
  | nil => rfl
  | cons part parts ih =>
    rw [List.cons_append, follow_cons, follow_cons]
    rcases n.step part with e | (_ | c)
    · rfl
    · rfl
    · exact ih c

lemma follow_eq_some_iff : n.follow parts = .ok (some d) ↔ n.Leads parts d := by
  constructor
  · intro h
    induction parts generalizing n with
    | nil =>
      cases h
      exact .here _
    | cons part parts ih =>
      rw [follow_cons] at h
      rcases hstep : n.step part with e | (_ | c) <;> rw [hstep] at h
      · cases h
      · cases h
      · exact .step (step_eq_some_iff.1 hstep) (ih h)
  · intro h
    induction h with
    | here n => rfl
    | step h _ ih => rw [follow_cons, step_eq_some_iff.2 h, ← ih]; rfl

/-- Parts fail from a node exactly if some of them lead to digits that are no number. -/
lemma follow_eq_error_iff : n.follow parts = .error f ↔ f = .crash .badText ∧
    ∃ before part after c, parts = before ++ part :: after ∧ n.Leads before c ∧
      Unreadable part := by
  constructor
  · intro h
    induction parts generalizing n with
    | nil => cases h
    | cons part parts ih =>
      rw [follow_cons] at h
      rcases hstep : n.step part with e | (_ | c) <;> rw [hstep] at h
      · cases h
        obtain ⟨hf, hu⟩ := step_eq_error_iff.1 hstep
        exact ⟨hf, [], part, parts, n, rfl, .here n, hu⟩
      · cases h
      · obtain ⟨hf, before, bad, after, d, rfl, hd, hu⟩ := ih h
        exact ⟨hf, part :: before, bad, after, d, rfl, .step (step_eq_some_iff.1 hstep) hd, hu⟩
  · rintro ⟨rfl, before, part, after, c, rfl, hc, hu⟩
    rw [follow_append, follow_eq_some_iff.2 hc]
    change c.follow (part :: after) = _
    rw [follow_cons, step_of_unreadable hu]
    rfl

lemma exists_resolve (h : Readable path) (n : Node) : ∃ found, n.resolve path = .ok found := by
  rw [resolve_eq]
  rcases hfollow : n.follow (pathParts path) with f | found
  · obtain ⟨-, before, part, after, -, hparts, -, hu⟩ := follow_eq_error_iff.1 hfollow
    exact absurd hu (h part (by rw [hparts]; simp))
  · exact ⟨found, rfl⟩

/-! ### Trees for a path -/

/-- Where a path leads is a matter of the children of a node only. -/
lemma follow_congr (hne : parts ≠ []) (h : n.children = m.children) :
    n.follow parts = m.follow parts := by
  obtain ⟨part, parts, rfl⟩ := List.exists_cons_of_ne_nil hne
  simp only [follow_cons, step, namedChildren, child?, h]

/-- A node like a given one can be placed where a readable part leads from a node of any kind. -/
lemma exists_parent (h : ¬Unreadable part) (kind : String) (m : Node) :
    ∃ n c : Node, n.kind = kind ∧ n.step part = .ok (some c) ∧ c.kind = m.kind ∧
      c.children = m.children := by
  let c := mk m.kind 0 0 (some (String.ofList part)) true m.children
  rcases part_cases part with ⟨i, hi⟩ | hu | hf
  · refine ⟨mk kind 0 0 none true (List.replicate (i + 1) c), c, rfl, ?_, rfl, rfl⟩
    rw [step_of_numbers hi, namedChildren, children, List.filter_replicate_of_pos rfl]
    simp
  · exact absurd hu h
  · refine ⟨mk kind 0 0 none true [c], c, rfl, ?_, rfl, rfl⟩
    have hfield : c.field = some (String.ofList part) := rfl
    rw [step_of_not_isDigits hf, child?, children]
    simp [hfield]

lemma exists_arrival (hne : parts ≠ []) (h : ∀ part ∈ parts, ¬Unreadable part) (kind : String)
    (m : Node) : ∃ n c : Node, n.kind = kind ∧ n.follow parts = .ok (some c) ∧ c.kind = m.kind ∧
      c.children = m.children := by
  induction parts generalizing kind with
  | nil => exact absurd rfl hne
  | cons part parts ih =>
    have hpart := h part List.mem_cons_self
    rcases eq_or_ne parts [] with rfl | hparts
    · obtain ⟨n, c, hn, hstep, halike⟩ := exists_parent hpart kind m
      refine ⟨n, c, hn, ?_, halike⟩
      rw [follow_cons, hstep]
      rfl
    · have hrest : ∀ p ∈ parts, ¬Unreadable p := fun p hp => h p (List.mem_cons_of_mem _ hp)
      obtain ⟨n', d, -, hfollow, halike⟩ := ih hparts hrest kind
      obtain ⟨n, c, hn, hstep, -, hchildren⟩ := exists_parent hpart kind n'
      refine ⟨n, d, hn, ?_, halike⟩
      rw [follow_cons, hstep]
      exact (follow_congr hparts hchildren).trans hfollow

lemma exists_follow_eq_error (h : ∃ part ∈ parts, Unreadable part) (kind : String) :
    ∃ n : Node, n.kind = kind ∧ n.follow parts = .error (.crash .badText) := by
  induction parts generalizing kind with
  | nil => simp at h
  | cons part parts ih =>
    by_cases hu : Unreadable part
    · refine ⟨mk kind 0 0 none true [], rfl, ?_⟩
      rw [follow_cons, step_of_unreadable hu]
      rfl
    · obtain ⟨bad, hbad, hunreadable⟩ : ∃ part ∈ parts, Unreadable part := by
        simpa [hu] using h
      obtain ⟨m, -, hm⟩ := ih ⟨bad, hbad, hunreadable⟩ kind
      obtain ⟨n, c, hn, hstep, -, hchildren⟩ := exists_parent hu kind m
      refine ⟨n, hn, ?_⟩
      rw [follow_cons, hstep]
      exact (follow_congr (List.ne_nil_of_mem hbad) hchildren).trans hm

/-- A path that resolves from every node of some kind is readable. -/
lemma readable_of_resolves (kind : String)
    (h : ∀ n : Node, n.kind = kind → ∃ found, n.resolve path = .ok found) : Readable path := by
  intro part hpart hu
  obtain ⟨n, hn, hfail⟩ := exists_follow_eq_error ⟨part, hpart, hu⟩ kind
  obtain ⟨found, hfound⟩ := h n hn
  rw [resolve_eq, hfail] at hfound
  cases hfound

end Script.Node

namespace Conformance

open Script (Node)
open Script.Node (pathParts pathParts_ne_nil Unreadable Readable)

variable {τ : Type}

/-! ### Paths of an index -/

lemma resolves_of_readable {kind : String} {steps : List Step}
    (h : ∀ s ∈ steps, Readable s.path) (n : Node) : Resolves n kind steps := by
  induction steps generalizing n kind with
  | nil => trivial
  | cons s steps ih =>
    intro _
    obtain ⟨found, hfound⟩ := Node.exists_resolve (h s List.mem_cons_self) n
    exact ⟨found, hfound, fun c _ => ih (fun t ht => h t (List.mem_cons_of_mem _ ht)) c⟩

lemma resolves_congr {n m : Node} (hkind : n.kind = m.kind) (hchildren : n.children = m.children)
    {kind : String} {steps : List Step} (h : Resolves n kind steps) : Resolves m kind steps := by
  cases steps with
  | nil => trivial
  | cons s steps =>
    intro hm
    obtain ⟨found, hfound, hrest⟩ := h (hkind.trans hm)
    rw [Node.resolve_eq, Node.follow_congr (pathParts_ne_nil _) hchildren] at hfound
    exact ⟨found, (Node.resolve_eq m _).trans hfound, hrest⟩

lemma readable_of_forall_resolves (kind : String) {steps : List Step}
    (h : ∀ n, Resolves n kind steps) : ∀ s ∈ steps, Readable s.path := by
  induction steps generalizing kind with
  | nil => exact nofun
  | cons s steps ih =>
    have hs : Readable s.path := by
      refine Node.readable_of_resolves kind fun n hn => ?_
      obtain ⟨found, hfound, -⟩ := h n hn
      exact ⟨found, hfound⟩
    -- the first path leads to the like of any node, so no node breaks the rest of the chain
    have hsteps : ∀ m, Resolves m s.kind steps := by
      intro m
      obtain ⟨n, c, hn, hc, hkind, hchildren⟩ :=
        Node.exists_arrival (pathParts_ne_nil s.path) hs kind m
      obtain ⟨found, hfound, hrest⟩ := h n hn
      rw [Node.resolve_eq, hc] at hfound
      exact resolves_congr hkind hchildren (hrest c (Except.ok.inj hfound).symm)
    exact List.forall_mem_cons.2 ⟨hs, ih s.kind hsteps⟩

/-- Look-ups in an index never fail exactly if every path in it is readable. -/
lemma lookups_ok_iff {es : List (Entry τ)} :
    (∀ n, ∃ edges, (Index.addAll es).lookup n = .ok edges) ↔
      ∀ e ∈ es, ∀ s ∈ e.usable, Readable s.path := by
  constructor
  · intro h e he
    refine readable_of_forall_resolves e.kind fun n => ?_
    obtain ⟨edges, hok⟩ := h n
    exact resolves_of_lookup_addAll hok e he
  · intro h n
    obtain ⟨edges, hok, -⟩ := lookup_addAll fun e he => resolves_of_readable (h e he) n
    exact ⟨edges, hok⟩

/-- **Paths fail only at digits that are no number.** An index accepts a chain exactly if none of
its paths is empty. From a node a path leads to the descendant that its parts name, and it fails
exactly if some of its parts lead to digits that are no number; else it leads nowhere. So a path
resolves from every node, and an index can be looked up at every node, exactly if no path has such
a part. A path joined from two is followed as the first one and then, if this leads to a node, as
the second one from there. -/
theorem paths_fail_at_unreadable (es : List (Entry τ)) :
    (∀ (i : Index τ) (e : Entry τ),
      (i.add e.test e.kind e.steps).2 = .ok () ↔ ∀ s ∈ e.steps, s.path ≠ "") ∧
    (∀ (n : Node) path c, n.resolve path = .ok (some c) ↔ n.Leads (pathParts path) c) ∧
    (∀ (n : Node) path f, n.resolve path = .error f ↔ f = .crash .badText ∧
      ∃ before part after c, pathParts path = before ++ part :: after ∧ n.Leads before c ∧
        Unreadable part) ∧
    (∀ path, (∀ n : Node, ∃ found, n.resolve path = .ok found) ↔ Readable path) ∧
    ((∀ n, ∃ edges, (Index.addAll es).lookup n = .ok edges) ↔
      ∀ e ∈ es, ∀ s ∈ e.usable, Readable s.path) ∧
    ∀ (n : Node) p q, n.resolve (p ++ "." ++ q) =
      n.resolve p >>= fun found => found.elim (.ok none) (·.resolve q) := by
  refine ⟨fun i e => ?_, fun n path c => ?_, fun n path f => ?_, fun path => ⟨?_, ?_⟩,
    lookups_ok_iff, fun n p q => ?_⟩
  · rw [Index.add_eq]
    simp [Entry.isAccepted]
  · rw [Node.resolve_eq, Node.follow_eq_some_iff]
  · rw [Node.resolve_eq, Node.follow_eq_error_iff]
  · exact fun h => Node.readable_of_resolves "" fun n _ => h n
  · exact Node.exists_resolve
  · simp only [Node.resolve_eq, Node.pathParts_append, Node.follow_append]

/-- `x` of `f(x)`. -/
def argumentNode : Node := .mk "identifier" 2 3 none true []

/-- `f(x)`. -/
def callNode : Node :=
  .mk "call_expression" 0 4 none true
    [.mk "identifier" 0 1 (some "function") true [],
      .mk "arguments" 1 4 (some "arguments") true
        [.mk "(" 1 2 none false [], argumentNode, .mk ")" 3 4 none false []]]

/-- A chain for arguments, with the number in Arabic digits. -/
def argumentEntry : Entry String := ⟨"test", "call_expression", [⟨"arguments.٠", "identifier"⟩]⟩

/-- The number of an argument can be written in the digits of any script. -/
theorem paths_from_callNode :
    callNode.Leads ["arguments".toList, ['٠']] argumentNode ∧ Readable "arguments.٠" ∧
    (∀ n : Node, ∃ found, n.resolve "arguments.٠" = .ok found) ∧
    ∀ n, ∃ edges, (Index.addAll [argumentEntry]).lookup n = .ok edges := by
  obtain ⟨-, hleads, -, hresolves, hlookups, -⟩ := paths_fail_at_unreadable [argumentEntry]
  have hreadable : Readable "arguments.٠" := by
    intro part hpart hu
    obtain rfl | rfl : part = "arguments".toList ∨ part = ['٠'] := by
      simpa [show pathParts "arguments.٠" = ["arguments".toList, ['٠']] from rfl] using hpart
    · exact absurd (hu.digits 'a' (by simp)) (by decide)
    · rcases hu.excess with ⟨c, hc, hvalue⟩ | hlong
      · rw [List.mem_singleton.1 hc] at hvalue
        exact hvalue (by decide)
      · exact absurd hlong (by decide)
  refine ⟨(hleads callNode "arguments.٠" argumentNode).1 rfl, hreadable,
    (hresolves _).2 hreadable, hlookups.2 fun e he s hs => ?_⟩
  obtain rfl := List.mem_singleton.1 he
  obtain rfl : s = ⟨"arguments.٠", "identifier"⟩ := by simpa [argumentEntry, Entry.usable] using hs
  exact hreadable

/-- A superscript digit is accepted as a path and fails at the first node that is looked up. -/
theorem lookup_superscriptPath :
    "²" ≠ "" ∧ callNode.resolve "²" = .error (.crash .badText) ∧
    ((Index.nil : Index String).add "test" "call_expression" [⟨"²", "identifier"⟩]).2 = .ok () ∧
    ((Index.nil : Index String).add "test" "call_expression" [⟨"²", "identifier"⟩]).1.lookup
      callNode = .error (.crash .badText) := by
  refine ⟨by decide, rfl, rfl, rfl⟩

end Conformance

end ComponentLint
