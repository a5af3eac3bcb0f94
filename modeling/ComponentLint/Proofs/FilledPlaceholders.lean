import ComponentLint.Settings.Environment
import Mathlib

/-!
Filling in placeholders.

A text has one reading from left to right as characters and placeholders, and it is filled in by
putting the value of its variable, as it is, in place of each placeholder. So what is filled in
depends on the variables that the text names and on nothing else. In a value this happens to the
strings alone, and its structure is the same in every environment.
-/

namespace ComponentLint

/-! ### Values by their parts -/

namespace Value

/-- What stands at a path of positions: an item of a list, or the value of an entry. -/
def at? : Value → List ℕ → Option Value
  | v, [] => some v
  | .list items, i :: path => items[i]?.bind (·.at? path)
  | .map entries, i :: path => entries[i]?.bind (·.2.at? path)
  | _, _ :: _ => none

/-- The same keys in the same order, lists of the same length, and the same leaves but for the
texts of strings. -/
inductive SameShape : Value → Value → Prop where
  | null : SameShape .null .null
  | bool (b : Bool) : SameShape (.bool b) (.bool b)
  | int (n : ℤ) : SameShape (.int n) (.int n)
  | float (x : Number.Binary) : SameShape (.float x) (.float x)
  | moment (kind plain quoted : String) :
      SameShape (.moment kind plain quoted) (.moment kind plain quoted)
  | str (s t : String) : SameShape (.str s) (.str t)
  | list {vs ws : List Value} (hitems : List.Forall₂ SameShape vs ws) :
      SameShape (.list vs) (.list ws)
  | map {es fs : List (Value × Value)} (hkeys : es.map Prod.fst = fs.map Prod.fst)
      (hvalues : List.Forall₂ SameShape (es.map Prod.snd) (fs.map Prod.snd)) :
      SameShape (.map es) (.map fs)

/-- What holds of every leaf, and of a list or mapping whenever it holds of all its parts, holds
of every value. -/
lemma induction_parts {P : Value → Prop} (null : P .null) (bool : ∀ b, P (.bool b))
    (int : ∀ n, P (.int n)) (float : ∀ x, P (.float x)) (str : ∀ s, P (.str s))
    (moment : ∀ kind plain quoted, P (.moment kind plain quoted))
    (list : ∀ items, (∀ v ∈ items, P v) → P (.list items))
    (map : ∀ entries, (∀ e ∈ entries, P e.2) → P (.map entries)) (v : Value) : P v :=
  match v with
  | .null => null
  | .bool b => bool b
  | .int n => int n
  | .float x => float x
  | .str s => str s
  | .moment kind plain quoted => moment kind plain quoted
  | .list items => list items fun w hw =>
    have hlt := List.sizeOf_lt_of_mem hw
    induction_parts null bool int float str moment list map w
  | .map entries => map entries fun e he =>
    have hlt := List.sizeOf_lt_of_mem he
    have hsize : sizeOf e = 1 + sizeOf e.1 + sizeOf e.2 := by cases e; rfl
    induction_parts null bool int float str moment list map e.2
termination_by sizeOf v
decreasing_by
  · rw [Value.list.sizeOf_spec]
    omega
  · rw [Value.map.sizeOf_spec]
    omega

end Value

namespace Environment

/-! ### Texts -/

/-- What a text is made of: a character that stands for itself, or a placeholder. -/
inductive Piece where
  | plain (c : Char)
  | named (name : List Char)

/-- How a piece is written. -/
def Piece.written : Piece → List Char
  | plain c => [c]
  | named name => '$' :: '{' :: name ++ ['}']

/-- What a piece becomes: a placeholder the value of its variable, if that is set. -/
def Piece.filled (env : Environment) : Piece → List Char
  | plain c => [c]
  | named name => env.replacement name

/-- A text that starts with a placeholder: a name in braces, which holds no closing one. -/
structure StartsWithName (name rest s : List Char) : Prop where
  ne_nil : name ≠ []
  closing : '}' ∉ name
  eq : s = '$' :: '{' :: (name ++ '}' :: rest)

/-- The reading of a text from left to right. A placeholder that starts somewhere is taken as
one, and reading goes on after it. -/
inductive Reads : List Char → List Piece → Prop where
  | nil : Reads [] []
  | named {name rest s : List Char} {pieces : List Piece} (hstarts : StartsWithName name rest s)
      (hrest : Reads rest pieces) : Reads s (.named name :: pieces)
  | plain {c : Char} {rest : List Char} {pieces : List Piece}
      (hnone : ∀ name after, ¬StartsWithName name after (c :: rest))
      (hrest : Reads rest pieces) : Reads (c :: rest) (.plain c :: pieces)

lemma takeWhile_name {name : List Char} (h : '}' ∉ name) (rest : List Char) :
    (name ++ '}' :: rest).takeWhile (· ≠ '}') = name := by
  have hall : ∀ c ∈ name, decide (c ≠ '}') = true := by
    intro c hc
    exact decide_eq_true fun heq => h (heq ▸ hc)
  rw [List.takeWhile_append_of_pos hall]
  simp

lemma placeholder?_name {name : List Char} (hne : name ≠ []) (hclose : '}' ∉ name)
    (rest : List Char) : placeholder? ('$' :: '{' :: (name ++ '}' :: rest)) = some name := by
  rw [placeholder?.eq_1, takeWhile_name hclose, List.drop_left]
  simp [hne]

lemma placeholder?_eq_some_iff {s name : List Char} :
    placeholder? s = some name ↔ ∃ rest, StartsWithName name rest s := by
  constructor
  · intro h
    unfold placeholder? at h
    split at h
    · next inside =>
      by_cases hclose : '}' ∈ inside
      · obtain ⟨before, after, rfl, hbefore⟩ := List.eq_append_cons_of_mem hclose
        rw [takeWhile_name hbefore] at h
        dsimp only at h
        split_ifs at h with hnone
        cases h
        refine ⟨after, ?_, hbefore, rfl⟩
        rintro rfl
        exact hnone rfl
      · have hall : inside.takeWhile (· ≠ '}') = inside :=
          List.takeWhile_eq_self_iff.2 fun c hc => decide_eq_true fun heq => hclose (heq ▸ hc)
        rw [hall] at h
        simp at h
    · cases h
  · rintro ⟨rest, hne, hclose, rfl⟩
    exact placeholder?_name hne hclose rest

lemma StartsWithName.unique {name name' rest rest' s : List Char}
    (h : StartsWithName name rest s) (h' : StartsWithName name' rest' s) :
    name = name' ∧ rest = rest' := by
  have hname : some name = some name' :=
    (placeholder?_eq_some_iff.2 ⟨rest, h⟩).symm.trans (placeholder?_eq_some_iff.2 ⟨rest', h'⟩)
  cases hname
  have heq := h.eq.symm.trans h'.eq
  exact ⟨rfl, by simpa using heq⟩

lemma StartsWithName.length_lt {name rest s : List Char} (h : StartsWithName name rest s) :
    rest.length < s.length := by
  rw [h.eq]
  simp
  omega

lemma Reads.unique {s : List Char} {pieces pieces' : List Piece} (h : Reads s pieces)
    (h' : Reads s pieces') : pieces = pieces' := by
  induction h generalizing pieces' with
  | nil =>
    cases h' with
    | nil => rfl
    | named hstarts _ => cases hstarts.eq
  | named hstarts _ ih =>
    cases h' with
    | nil => cases hstarts.eq
    | named hstarts' hrest' =>
      obtain ⟨rfl, rfl⟩ := hstarts.unique hstarts'
      rw [ih hrest']
    | plain hnone _ => exact absurd hstarts (hnone _ _)
  | plain hnone _ ih =>
    cases h' with
    | named hstarts _ => exact absurd hstarts (hnone _ _)
    | plain _ hrest' => rw [ih hrest']

lemma exists_reads (s : List Char) : ∃ pieces, Reads s pieces := by
  induction hlen : s.length using Nat.strong_induction_on generalizing s with
  | _ n ih =>
    cases s with
    | nil => exact ⟨[], .nil⟩
    | cons c cs =>
      by_cases hstarts : ∃ name rest, StartsWithName name rest (c :: cs)
      · obtain ⟨name, rest, hstarts⟩ := hstarts
        obtain ⟨pieces, hrest⟩ := ih rest.length (hlen ▸ hstarts.length_lt) rest rfl
        exact ⟨.named name :: pieces, .named hstarts hrest⟩
      · obtain ⟨pieces, hrest⟩ := ih cs.length (hlen ▸ Nat.lt_succ_self _) cs rfl
        exact ⟨.plain c :: pieces, .plain (fun name rest h => hstarts ⟨name, rest, h⟩) hrest⟩

lemma Reads.written {s : List Char} {pieces : List Piece} (h : Reads s pieces) :
    pieces.flatMap (·.written) = s := by
  induction h with
  | nil => rfl
  | named hstarts _ ih =>
    rw [List.flatMap_cons, ih, hstarts.eq]
    simp [Piece.written]
  | plain _ _ ih =>
    rw [List.flatMap_cons, ih]
    rfl

/-! ### Filling in -/

lemma fillFrom_skip (env : Environment) (skipped rest : List Char) :
    env.fillFrom skipped.length (skipped ++ rest) = env.fillFrom 0 rest := by
  induction skipped with
  | nil => rfl
  | cons c cs ih => exact ih

lemma fillFrom_named (env : Environment) {name rest s : List Char}
    (h : StartsWithName name rest s) :
    env.fillFrom 0 s = env.replacement name ++ env.fillFrom 0 rest := by
  have hsome := placeholder?_eq_some_iff.2 ⟨rest, h⟩
  have hskip := env.fillFrom_skip ('{' :: (name ++ ['}'])) rest
  rw [h.eq] at hsome ⊢
  rw [fillFrom, hsome]
  simpa using hskip

lemma fillFrom_plain (env : Environment) {c : Char} {rest : List Char}
    (h : ∀ name after, ¬StartsWithName name after (c :: rest)) :
    env.fillFrom 0 (c :: rest) = c :: env.fillFrom 0 rest := by
  have hnone : placeholder? (c :: rest) = none := by
    rw [Option.eq_none_iff_forall_not_mem]
    intro name hname
    obtain ⟨after, hstarts⟩ := placeholder?_eq_some_iff.1 hname
    exact h name after hstarts
  rw [fillFrom, hnone]

/-- Each piece of a text is filled in by itself, so no value that is put in is read again. -/
lemma fillFrom_reads (env : Environment) {s : List Char} {pieces : List Piece}
    (h : Reads s pieces) : env.fillFrom 0 s = pieces.flatMap (·.filled env) := by
  induction h with
  | nil => rfl
  | named hstarts _ ih => rw [env.fillFrom_named hstarts, ih]; rfl
  | plain hnone _ ih => rw [env.fillFrom_plain hnone, ih]; rfl

lemma fillText_reads (env : Environment) {s : String} {pieces : List Piece}
    (h : Reads s.toList pieces) :
    env.fillText s = String.ofList (pieces.flatMap (·.filled env)) := by
  rw [fillText, env.fillFrom_reads h]

/-- What a text becomes depends on the variables that it names. -/
lemma fillText_congr {env env' : Environment} {s : String} {pieces : List Piece}
    (h : Reads s.toList pieces)
    (hagree : ∀ name, .named name ∈ pieces →
      env.get? (String.ofList name) = env'.get? (String.ofList name)) :
    env.fillText s = env'.fillText s := by
  rw [env.fillText_reads h, env'.fillText_reads h]
  congr 1
  refine List.flatMap_congr fun piece hpiece => ?_
  cases piece with
  | plain c => rfl
  | named name => rw [Piece.filled, Piece.filled, replacement, replacement, hagree name hpiece]

/-- A text none of whose variables is set stays as it is. -/
lemma fillText_unset {env : Environment} {s : String} {pieces : List Piece}
    (h : Reads s.toList pieces)
    (hunset : ∀ name, .named name ∈ pieces → env.get? (String.ofList name) = none) :
    env.fillText s = s := by
  have hfilled : pieces.flatMap (·.filled env) = pieces.flatMap (·.written) := by
    refine List.flatMap_congr fun piece hpiece => ?_
    cases piece with
    | plain c => rfl
    | named name => rw [Piece.filled, replacement, hunset name hpiece]; rfl
  rw [env.fillText_reads h, hfilled, h.written, String.ofList_toList]

/-! ### Values -/

lemma fillItems_eq (env : Environment) (items : List Value) :
    env.fillItems items = items.map env.fill := by
  induction items with
  | nil => rw [fillItems]; rfl
  | cons v vs ih => rw [fillItems, ih]; rfl

lemma fillEntries_eq (env : Environment) (entries : List (Value × Value)) :
    env.fillEntries entries = entries.map fun e => (e.1, env.fill e.2) := by
  induction entries with
  | nil => rw [fillEntries]; rfl
  | cons e es ih => rw [fillEntries, ih]; rfl

lemma fill_list (env : Environment) (items : List Value) :
    env.fill (.list items) = .list (items.map env.fill) := by
  rw [fill, fillItems_eq]

lemma fill_map (env : Environment) (entries : List (Value × Value)) :
    env.fill (.map entries) = .map (entries.map fun e => (e.1, env.fill e.2)) := by
  rw [fill, fillEntries_eq]

lemma fill_eq_str {env : Environment} {v : Value} {t : String} (h : env.fill v = .str t) :
    ∃ s, v = .str s ∧ env.fillText s = t := by
  cases v <;> simp [fill] at h
  exact ⟨_, rfl, h⟩

lemma sameShape_fill (env env' : Environment) (v : Value) :
    (env.fill v).SameShape (env'.fill v) := by
  induction v using Value.induction_parts with
  | null => exact .null
  | bool b => exact .bool b
  | int n => exact .int n
  | float x => exact .float x
  | str s => exact .str _ _
  | moment kind plain quoted => exact .moment kind plain quoted
  | list items ih =>
    rw [fill_list, fill_list]
    refine .list (List.forall₂_map_left_iff.2 (List.forall₂_map_right_iff.2 ?_))
    exact List.forall₂_same.2 ih
  | map entries ih =>
    rw [fill_map, fill_map]
    refine .map (by simp [Function.comp_def]) ?_
    rw [List.map_map, List.map_map]
    refine List.forall₂_map_left_iff.2 (List.forall₂_map_right_iff.2 ?_)
    exact List.forall₂_same.2 ih

lemma at?_fill (env : Environment) (v : Value) (path : List ℕ) :
    (env.fill v).at? path = (v.at? path).map env.fill := by
  induction path generalizing v with
  | nil => cases v <;> rfl
  | cons i path ih =>
    cases v with
    | list items =>
      rw [fill_list, Value.at?, Value.at?, List.getElem?_map]
      cases items[i]? with
      | none => rfl
      | some w => exact ih w
    | map entries =>
      rw [fill_map, Value.at?, Value.at?, List.getElem?_map]
      cases entries[i]? with
      | none => rfl
      | some e => exact ih e.2
    | _ => rfl

/-- A value whose texts all stay as they are stays as it is. -/
lemma fill_eq_self {env : Environment} {v : Value}
    (h : ∀ path s, v.at? path = some (.str s) → env.fillText s = s) : env.fill v = v := by
  induction v using Value.induction_parts with
  | str s => rw [fill, h [] s rfl]
  | list items ih =>
    have hsame : ∀ w ∈ items, env.fill w = id w := by
      intro w hw
      obtain ⟨i, hi⟩ := List.mem_iff_getElem?.1 hw
      refine ih w hw fun path s hs => h (i :: path) s ?_
      rw [Value.at?, hi]
      exact hs
    rw [fill_list, List.map_congr_left hsame, List.map_id]
  | map entries ih =>
    have hsame : ∀ e ∈ entries, (e.1, env.fill e.2) = id e := by
      intro e he
      obtain ⟨i, hi⟩ := List.mem_iff_getElem?.1 he
      refine Prod.ext rfl (ih e he fun path s hs => h (i :: path) s ?_)
      rw [Value.at?, hi]
      exact hs
    rw [fill_map, List.map_congr_left hsame, List.map_id]
  | _ => rfl

/-- **Filling in keeps the structure of a value.** In any two environments a value gets the same
keys, lists and leaves that are no strings. A string is the same in both unless it has a
placeholder for a variable on which they differ. What stands in a string is filled in piece by
piece, so that no value that has been put in is read again, and a value stays as it is where none
of the variables it names is set. -/
theorem fill_keeps_structure (v : Value) (env env' : Environment) :
    (env.fill v).SameShape (env'.fill v) ∧
    (∀ path t t', (env.fill v).at? path = some (.str t) →
      (env'.fill v).at? path = some (.str t') → t ≠ t' →
      ∃ s pieces name, v.at? path = some (.str s) ∧ Reads s.toList pieces ∧ .named name ∈ pieces ∧
        env.get? (String.ofList name) ≠ env'.get? (String.ofList name)) ∧
    (∀ path s, v.at? path = some (.str s) → ∃! pieces, Reads s.toList pieces ∧
      (env.fill v).at? path = some (.str (String.ofList (pieces.flatMap (·.filled env))))) ∧
    ((∀ path s pieces name, v.at? path = some (.str s) → Reads s.toList pieces →
      .named name ∈ pieces → env.get? (String.ofList name) = none) → env.fill v = v) := by
  refine ⟨sameShape_fill env env' v, ?_, ?_, ?_⟩
  · intro path t t' ht ht' hne
    rw [at?_fill, Option.map_eq_some_iff] at ht ht'
    obtain ⟨w, hw, ht⟩ := ht
    obtain ⟨w', hw', ht'⟩ := ht'
    obtain rfl : w = w' := Option.some.inj (hw.symm.trans hw')
    obtain ⟨s, rfl, rfl⟩ := fill_eq_str ht
    obtain ⟨pieces, hreads⟩ := exists_reads s.toList
    by_contra hnone
    push Not at hnone
    refine hne ?_
    rw [fillText_congr hreads fun name hname => hnone s pieces name hw hreads hname]
    simpa [fill] using ht'
  · intro path s hs
    obtain ⟨pieces, hreads⟩ := exists_reads s.toList
    refine ⟨pieces, ⟨hreads, ?_⟩, fun pieces' h => h.1.unique hreads⟩
    rw [at?_fill, hs, Option.map_some, fill, env.fillText_reads hreads]
  · intro hunset
    refine fill_eq_self fun path s hs => ?_
    obtain ⟨pieces, hreads⟩ := exists_reads s.toList
    exact fillText_unset hreads fun name hname => hunset path s pieces name hs hreads hname

-- A value that looks like a placeholder, and a name that starts like one.
example : fillText [("A", "$\x7bB\x7d"), ("B", "x")] "$\x7bA\x7d $\x7b$\x7bA\x7d\x7d" =
    "$\x7bB\x7d $\x7b$\x7bA\x7d\x7d" := by
  decide

end Environment

end ComponentLint
