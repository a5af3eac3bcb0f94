import ComponentLint.Json.Reader
import ComponentLint.Proofs.IndexLookup

/-!
The values a JSON document holds.

A reader that goes through puts a value together from texts, truth values and numbers, and no whole
number in it has more digits than can be written. Keys are texts, and no value is a moment.
-/

namespace ComponentLint

open Conformance (bind_eq_ok)

/-! ### Numbers -/

namespace Number

lemma digitsValue_concat (s : List Char) (c : Char) :
    digitsValue (s ++ [c]) = digitsValue s * 10 + (Text.decimalValue? c).getD 0 := by
  simp [digitsValue]

lemma decimalValue?_lt {c : Char} {d : ℕ} (h : d ∈ Text.decimalValue? c) : d < 10 := by
  rw [Text.decimalValue?] at h
  split_ifs at h with hascii hdigit
  · obtain rfl := Option.some.inj h
    have hlast : c.toNat ≤ '9'.toNat := by
      simp only [Text.isAsciiDigit, Bool.and_eq_true, decide_eq_true_eq] at hdigit
      exact hdigit.2
    have hnine : '9'.toNat = 57 := rfl
    omega
  · cases h
  · obtain ⟨z, hz, rfl⟩ := Option.map_eq_some_iff.1 h
    have hrange := List.find?_some hz
    simp only [Bool.and_eq_true, decide_eq_true_eq] at hrange
    omega

/-- As many digits as a number is written with bound it. -/
lemma digitsValue_lt (s : List Char) : digitsValue s < 10 ^ s.length := by
  induction s using List.reverseRecOn with
  | nil => decide
  | append_singleton s c ih =>
    have hdigit : (Text.decimalValue? c).getD 0 < 10 := by
      cases hvalue : Text.decimalValue? c with
      | none => decide
      | some d => exact decimalValue?_lt hvalue
    rw [digitsValue_concat, List.length_append, List.length_singleton, pow_succ]
    omega

/-- What has no more digits than the bound can be written. -/
lemma isWritable_of_lt {n : ℤ} {k : ℕ} (h : n.natAbs < 10 ^ k) (hk : k ≤ digitLimit) :
    isWritable n := by
  unfold isWritable
  -- a variable, so that no power is computed
  generalize digitLimit = bound at hk ⊢
  rw [decide_eq_true_iff, Nat.pow_eq]
  exact h.trans_le (Nat.pow_le_pow_right (by decide) hk)

end Number

/-! ### Values -/

/-- The values of JSON, with whole numbers as far as they can be written. -/
inductive Value.IsJson : Value → Prop where
  | null : IsJson .null
  | bool (b : Bool) : IsJson (.bool b)
  | int {n : ℤ} (h : Number.isWritable n) : IsJson (.int n)
  | float (x : Number.Binary) : IsJson (.float x)
  | str (s : String) : IsJson (.str s)
  | list {items : List Value} (h : ∀ v ∈ items, IsJson v) : IsJson (.list items)
  | map {entries : List (Value × Value)} (hkeys : ∀ e ∈ entries, ∃ s, e.1 = .str s)
      (h : ∀ e ∈ entries, IsJson e.2) : IsJson (.map entries)

namespace Value

lemma areWritable_iff {items : List Value} :
    areWritable items ↔ ∀ v ∈ items, v.isWritable := by
  induction items with
  | nil => simp [areWritable]
  | cons v items ih => simp [areWritable, ih]

lemma areWritableEntries_iff {entries : List (Value × Value)} :
    areWritableEntries entries ↔ ∀ e ∈ entries, e.1.isWritable ∧ e.2.isWritable := by
  induction entries with
  | nil => simp [areWritableEntries]
  | cons e entries ih => simp [areWritableEntries, ih]

/-- All of what JSON holds can be written. -/
lemma IsJson.isWritable {v : Value} (h : v.IsJson) : v.isWritable := by
  induction h with
  | null | bool | float | str => rfl
  | int h => exact h
  | list _ ih => exact areWritable_iff.2 ih
  | map hkeys _ ih =>
    refine areWritableEntries_iff.2 fun e he => ⟨?_, ih e he⟩
    obtain ⟨s, hs⟩ := hkeys e he
    rw [hs]
    rfl

/-- The entries of a mapping that JSON holds. -/
def AreJson (entries : List (Value × Value)) : Prop :=
  ∀ e ∈ entries, (∃ s, e.1 = .str s) ∧ e.2.IsJson

lemma isJson_map_iff {entries : List (Value × Value)} :
    (Value.map entries).IsJson ↔ AreJson entries :=
  ⟨fun | .map hkeys h => fun e he => ⟨hkeys e he, h e he⟩,
    fun h => .map (fun e he => (h e he).1) fun e he => (h e he).2⟩

lemma AreJson.setEntry {entries : List (Value × Value)} (h : AreJson entries) (key : String)
    {v : Value} (hv : v.IsJson) : AreJson (setEntry (.str key) v entries) := by
  induction entries with
  | nil => exact List.forall_mem_singleton.2 ⟨⟨key, rfl⟩, hv⟩
  | cons e entries ih =>
    obtain ⟨hhead, hrest⟩ := List.forall_mem_cons.1 h
    rw [Value.setEntry]
    split_ifs
    · exact List.forall_mem_cons.2 ⟨⟨hhead.1, hv⟩, hrest⟩
    · exact List.forall_mem_cons.2 ⟨hhead, ih hrest⟩

end Value

/-! ### The reader -/

namespace Json

open Value (IsJson AreJson)

/-- A whole number that is read can be written. -/
lemma isJson_of_whole {negative : Bool} {digits : List Char} {v : Value}
    (h : whole negative digits = .ok v) : v.IsJson := by
  unfold whole at h
  split at h
  swap
  · cases h
  rename_i hlength
  obtain rfl := Except.ok.inj h
  have hvalue := Number.digitsValue_lt digits
  exact .int (Number.isWritable_of_lt (by cases negative <;> simpa using hvalue) hlength)

lemma isJson_of_numeral {negative : Bool} {digits fraction : List Char} {exponent : Option ℤ}
    {v : Value} (h : numeral negative digits fraction exponent = .ok v) : v.IsJson := by
  unfold numeral at h
  split at h
  · exact isJson_of_whole h
  · cases h
    exact .float _

lemma isJson_of_number {s : List Char} {r : Value × List Char} (h : number s = .ok r) :
    r.1.IsJson := by
  unfold number at h
  dsimp only at h
  split at h
  · cases h
  · obtain ⟨v, hv, h⟩ := bind_eq_ok.1 h
    cases h
    exact isJson_of_numeral hv

lemma isJson_of_constant? {s : List Char} {r : Value × List Char} (h : r ∈ constant? s) :
    r.1.IsJson := by
  obtain ⟨p, hp, rfl⟩ := Option.map_eq_some_iff.1 h
  have hmem := List.mem_of_find?_eq_some hp
  simp only [constants, List.mem_cons, List.not_mem_nil, or_false] at hmem
  rcases hmem with rfl | rfl | rfl | rfl | rfl | rfl <;> constructor

/-- What a reader gives is JSON, if it gives anything. -/
def ReadsJson (x : Except ReadFailure (Value × List Char)) : Prop := ∀ r, x = .ok r → r.1.IsJson

/-- The three readers of values, with less fuel. -/
structure ReadersJson (fuel : ℕ) : Prop where
  value : ∀ s, ReadsJson (value fuel s)
  items : ∀ {acc} s, (∀ v ∈ acc, IsJson v) → ReadsJson (items fuel acc s)
  entries : ∀ {acc} s, AreJson acc → ReadsJson (entries fuel acc s)

lemma ReadersJson.value_succ {fuel : ℕ} (ih : ReadersJson fuel) (s : List Char) :
    ReadsJson (Json.value (fuel + 1) s) := by
  intro r h
  rw [Json.value.eq_def] at h
  dsimp only at h
  split at h
  · obtain ⟨_, -, h⟩ := bind_eq_ok.1 h
    cases h
    exact .str _
  · split at h
    · cases h
      exact .list (List.forall_mem_nil _)
    · exact ih.items _ (List.forall_mem_nil _) r h
  · split at h
    · cases h
      exact .map (List.forall_mem_nil _) (List.forall_mem_nil _)
    · exact ih.entries _ (List.forall_mem_nil _) r h
  · split at h
    · rename_i hconstant
      cases h
      exact isJson_of_constant? hconstant
    · exact isJson_of_number h

lemma ReadersJson.items_succ {fuel : ℕ} (ih : ReadersJson fuel) {acc : List Value}
    (s : List Char) (hacc : ∀ v ∈ acc, IsJson v) : ReadsJson (Json.items (fuel + 1) acc s) := by
  intro r h
  rw [Json.items.eq_def] at h
  obtain ⟨⟨v, rest⟩, hfirst, h⟩ := bind_eq_ok.1 h
  have hread : ∀ v' ∈ v :: acc, IsJson v' :=
    List.forall_mem_cons.2 ⟨ih.value s (v, rest) hfirst, hacc⟩
  dsimp only at h
  split at h
  · cases h
    exact .list fun v hv => hread v (List.mem_reverse.1 hv)
  · exact ih.items _ hread r h
  · cases h

lemma ReadersJson.entries_succ {fuel : ℕ} (ih : ReadersJson fuel) {acc : List (Value × Value)}
    (s : List Char) (hacc : AreJson acc) : ReadsJson (Json.entries (fuel + 1) acc s) := by
  intro r h
  rw [Json.entries.eq_def] at h
  dsimp only at h
  split at h
  swap
  · cases h
  obtain ⟨key, -, h⟩ := bind_eq_ok.1 h
  split at h
  swap
  · cases h
  obtain ⟨first, hfirst, h⟩ := bind_eq_ok.1 h
  have hread := hacc.setEntry key.1 (ih.value _ first hfirst)
  split at h
  · cases h
    exact Value.isJson_map_iff.2 hread
  · exact ih.entries _ hread r h
  · cases h

lemma readersJson (fuel : ℕ) : ReadersJson fuel := by
  induction fuel with
  | zero => exact ⟨nofun, nofun, nofun⟩
  | succ fuel ih => exact ⟨ih.value_succ, fun s => ih.items_succ s, fun s => ih.entries_succ s⟩

/-- **A document that is read holds JSON**, all of which can be written. -/
theorem isJson_of_parse {text : String} {v : Value} (h : parse text = .ok v) : v.IsJson := by
  obtain ⟨⟨w, rest⟩, hr, h⟩ := bind_eq_ok.1 h
  dsimp only at h
  split_ifs at h
  cases h
  exact (readersJson _).value _ (v, rest) hr

end Json

end ComponentLint
