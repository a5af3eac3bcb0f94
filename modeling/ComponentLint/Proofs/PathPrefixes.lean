import ComponentLint.Policy.PathFilter
import Mathlib

/-!
The paths a filter holds on.

The filter goes from a path to ever shorter prefixes: a slash at the end is dropped, anything else
is cut back to the slash before it. The prefixes it meets are those that name the path or one of its
directories, with or without the final slash, so a literal value counts exactly if it is such a
prefix.
-/

namespace ComponentLint

open Pattern (Engine)

namespace PathFilter

/-! ### Prefixes up to a boundary -/

/-- A value is the path or one of its directories: a prefix that is not empty and is the whole path,
or ends with a slash, or has a slash right after it. -/
def Covers (v q : List Char) : Prop :=
  v ≠ [] ∧ v <+: q ∧ (v = q ∨ v.getLast? = some '/' ∨ q[v.length]? = some '/')

instance (v q : List Char) : Decidable (Covers v q) := inferInstanceAs (Decidable (_ ∧ _))

lemma not_covers_nil (v : List Char) : ¬Covers v [] := by
  rintro ⟨hv, hprefix, -⟩
  exact hv (List.prefix_nil.1 hprefix)

lemma covers_append_iff {v rest : List Char} : Covers v (v ++ rest) ↔
    v ≠ [] ∧ (rest = [] ∨ v.getLast? = some '/' ∨ rest.head? = some '/') := by
  have hafter : (v ++ rest)[v.length]? = rest.head? := by
    rw [List.getElem?_append_right le_rfl, Nat.sub_self, List.head?_eq_getElem?]
  rw [Covers, hafter, List.self_eq_append_right, and_iff_right (List.prefix_append v rest)]

lemma covers_self {v : List Char} (hv : v ≠ []) : Covers v v := by
  have h : Covers v (v ++ []) := covers_append_iff.2 ⟨hv, Or.inl rfl⟩
  rwa [List.append_nil] at h

/-- What one step cuts off: a slash, or a name with no slash in it and one before it. No boundary
lies inside. -/
structure IsPiece (u piece : List Char) : Prop where
  ne_nil : piece ≠ []
  boundary : u = [] ∨ u.getLast? = some '/' ∨ piece.head? = some '/'
  inside : ∀ x y, piece = x ++ y → x ≠ [] → y ≠ [] → x.getLast? ≠ some '/' ∧ y.head? ≠ some '/'

lemma isPiece_slash (u : List Char) : IsPiece u ['/'] where
  ne_nil := by simp
  boundary := Or.inr (Or.inr rfl)
  inside x y h hx hy := by
    have hlength := congrArg List.length h
    rw [List.length_singleton, List.length_append] at hlength
    have := List.length_pos_iff.2 hx
    have := List.length_pos_iff.2 hy
    omega

lemma isPiece_name {u name : List Char} (hname : name ≠ []) (hplain : '/' ∉ name)
    (hu : u = [] ∨ u.getLast? = some '/') : IsPiece u name where
  ne_nil := hname
  boundary := hu.imp_right Or.inl
  inside x y h _ _ := by
    rw [h, List.mem_append, not_or] at hplain
    exact ⟨fun hlast => hplain.1 (List.mem_of_getLast? hlast),
      fun hhead => hplain.2 (List.mem_of_head? hhead)⟩

lemma eq_or_covers_of_append_piece {v u piece : List Char} (h : IsPiece u piece)
    (hcovers : Covers v (u ++ piece)) : v = u ++ piece ∨ Covers v u := by
  obtain ⟨rest, hrest⟩ := hcovers.2.1
  rw [← hrest, covers_append_iff] at hcovers
  obtain ⟨hv, hend⟩ := hcovers
  rcases List.append_eq_append_iff.1 hrest with ⟨x, rfl, rfl⟩ | ⟨x, rfl, rfl⟩
  · refine Or.inr (covers_append_iff.2 ⟨hv, ?_⟩)
    cases x with
    | nil => exact Or.inl rfl
    | cons c x => simpa using hend
  · -- the value ends within the piece, so at one of its ends
    by_cases hrest : rest = []
    · exact Or.inl (by rw [hrest, List.append_nil])
    by_cases hx : x = []
    · subst hx
      rw [List.append_nil] at hv ⊢
      exact Or.inr (covers_self hv)
    obtain ⟨hlast, hhead⟩ := h.inside x rest rfl hx hrest
    rw [List.getLast?_append_of_ne_nil _ hx] at hend
    exact absurd hend (by simp [hrest, hlast, hhead])

lemma Covers.append_piece {v u piece : List Char} (hcovers : Covers v u) (h : IsPiece u piece) :
    Covers v (u ++ piece) := by
  obtain ⟨rest, rfl⟩ := hcovers.2.1
  obtain ⟨hv, hend⟩ := covers_append_iff.1 hcovers
  rw [List.append_assoc, covers_append_iff]
  refine ⟨hv, Or.inr ?_⟩
  cases rest with
  | nil =>
    rw [List.append_nil] at h
    exact h.boundary.resolve_left hv
  | cons c rest => simpa using hend

/-- A piece more at the end of a path makes the whole path one more prefix that covers it. -/
lemma covers_append_piece {v u piece : List Char} (h : IsPiece u piece) :
    Covers v (u ++ piece) ↔ v = u ++ piece ∨ Covers v u := by
  refine ⟨eq_or_covers_of_append_piece h, ?_⟩
  rintro (rfl | hcovers)
  · exact covers_self (by simp [h.ne_nil])
  · exact hcovers.append_piece h

/-! ### The prefixes the filter meets -/

/-- A step leaves a shorter path and cuts off a piece. Paths are given from their ends. -/
lemma exists_piece (c : Char) (cs : List Char) : ∃ piece,
    (c :: cs).reverse = (if c = '/' then cs else cs.dropWhile (· ≠ '/')).reverse ++ piece ∧
      IsPiece (if c = '/' then cs else cs.dropWhile (· ≠ '/')).reverse piece := by
  split_ifs with hslash
  · exact ⟨['/'], by rw [List.reverse_cons, hslash], isPiece_slash _⟩
  · have hsplit : c :: cs = (c :: cs.takeWhile (· ≠ '/')) ++ cs.dropWhile (· ≠ '/') := by
      rw [List.cons_append, List.takeWhile_append_dropWhile]
    refine ⟨(c :: cs.takeWhile (· ≠ '/')).reverse, ?_, isPiece_name (by simp) ?_ ?_⟩
    · rw [← List.reverse_append, ← hsplit]
    · rw [List.mem_reverse, List.mem_cons, not_or]
      exact ⟨Ne.symm hslash, fun h => by simpa using List.mem_takeWhile_imp h⟩
    · rw [List.reverse_eq_nil_iff, List.getLast?_reverse]
      cases hrest : cs.dropWhile (· ≠ '/') with
      | nil => exact Or.inl rfl
      | cons d ds =>
        have hd := List.head?_dropWhile_not (· ≠ '/') cs
        rw [hrest] at hd
        exact Or.inr (by simpa using hd)

/-- A literal value is found among the prefixes exactly if it is the path or one of its
directories. -/
lemma matchesPrefix_iff (values : List String) (path : List Char) :
    matchesPrefix values path ↔ ∃ v ∈ values, Covers v.toList path.reverse := by
  fun_induction matchesPrefix values path with
  | case1 => simp [not_covers_nil]
  | case2 c cs ih =>
    obtain ⟨piece, hsplit, hpiece⟩ := exists_piece c cs
    have hwhole : String.ofList (c :: cs).reverse ∈ values ↔
        ∃ v ∈ values, v.toList = (c :: cs).reverse := by
      constructor
      · exact fun h => ⟨_, h, String.toList_ofList⟩
      · rintro ⟨v, hv, heq⟩
        rwa [← heq, String.ofList_toList]
    simp only [dite_eq_ite] at ih
    rw [Bool.or_eq_true, List.contains_iff_mem, ih, hwhole, hsplit, ← exists_or]
    refine exists_congr fun v => ?_
    rw [covers_append_piece hpiece, and_or_left]

/-! ### Filters that are built -/

variable [Engine] {values regexps : Option (List String)} {component : String} {f : PathFilter}

/-- A written expression and what it is compiled to. -/
def CompilesTo (source : String) (p : String × (String → Bool)) : Prop :=
  Engine.compile source = .ok p.2

/-- An expression matches somewhere in a path. -/
def Matches (source path : String) : Prop :=
  ∃ test, Engine.compile source = .ok test ∧ test path = true

lemma compilesTo_of_compile {source : String} {p : String × (String → Bool)}
    (h : compile component source = .ok p) : CompilesTo source p := by
  unfold compile at h
  split at h
  · next hcompile =>
    cases h
    exact hcompile
  · cases h

/-- The expressions of a filter are those of its sources, in order. -/
lemma compiled_of_mapM {sources : List String} {patterns : List (String × (String → Bool))}
    (h : sources.mapM (compile component) = .ok patterns) :
    List.Forall₂ CompilesTo sources patterns := by
  induction sources generalizing patterns with
  | nil =>
    cases h
    exact .nil
  | cons source sources ih =>
    rw [List.mapM_cons] at h
    cases hcompile : compile component source with
    | error e => rw [hcompile] at h; cases h
    | ok p =>
      cases hrest : sources.mapM (compile component) with
      | error e => rw [hcompile, hrest] at h; cases h
      | ok ps =>
        rw [hcompile, hrest] at h
        cases h
        exact .cons (compilesTo_of_compile hcompile) (ih hrest)

lemma of_build (h : build values regexps component = .ok (some f)) :
    f.values = values.getD [] ∧ List.Forall₂ CompilesTo (regexps.getD []) f.patterns := by
  rw [build] at h
  split_ifs at h
  · cases h
  cases hpatterns : (regexps.getD []).mapM (compile component) with
  | error e => rw [hpatterns] at h; cases h
  | ok patterns =>
    rw [hpatterns] at h
    cases h
    exact ⟨rfl, compiled_of_mapM hpatterns⟩

/-- Searching with the expressions of a filter is searching with those of its sources. -/
lemma any_search_iff {sources : List String} {patterns : List (String × (String → Bool))}
    (h : List.Forall₂ CompilesTo sources patterns) (path : String) :
    (patterns.any (·.2 path)) ↔ ∃ source ∈ sources, Matches source path := by
  induction h with
  | nil => simp
  | @cons source p _ _ hcompiles _ ih =>
    rw [List.any_cons, Bool.or_eq_true, ih, List.exists_mem_cons_iff]
    refine or_congr_left ⟨fun hsearch => ⟨p.2, hcompiles, hsearch⟩, ?_⟩
    rintro ⟨test, htest, hsearch⟩
    cases hcompiles.symm.trans htest
    exact hsearch

/-- **A filter holds on a path exactly if a value covers it or an expression matches in it.** A
value covers the path it spells and what is below a directory it names, with or without the final
slash; a path without slashes is read with its backslashes as slashes. -/
theorem holds_iff_of_build (h : build values regexps component = .ok (some f)) (path : String) :
    f.holds path ↔
      (∃ v ∈ values.getD [], Covers v.toList (normalize path.toList)) ∨
      ∃ source ∈ regexps.getD [], Matches source (String.ofList (normalize path.toList)) := by
  obtain ⟨hvalues, hpatterns⟩ := of_build h
  rw [holds, Bool.or_eq_true, matchesPrefix_iff, List.reverse_reverse, hvalues,
    any_search_iff hpatterns]

end PathFilter

/-- A search that knows some expressions, each of which matches where a text occurs. -/
abbrev Pattern.Engine.ofTexts (known : List (String × String)) : Engine where
  compile source :=
    match known.lookup source with
    | some text => .ok fun path => Text.hasInfix text.toList path.toList
    | none => .error .invalid

namespace PathFilter

/-! ### Two directories and an expression -/

/-- A point followed by `min`. -/
abbrev dotMin : Engine := .ofTexts [("[.]min", ".min")]

/-- What is below a directory is covered, also if written with backslashes; a path that goes on
within the name of the directory is not, and is left to the expression. -/
theorem holds_libraryFilter : letI := dotMin
    ∃ f, build (some ["src/lib", "test/"]) (some ["[.]min"]) "requirement" = .ok (some f) ∧
      f.holds "src\\lib\\a.js" ∧ ¬f.holds "src/library.js" ∧ f.holds "src/library.min.js" := by
  let _ := dotMin
  have hbuild : build (some ["src/lib", "test/"]) (some ["[.]min"]) "requirement" =
      .ok (some ⟨["src/lib", "test/"], [("[.]min", fun path =>
        Text.hasInfix ".min".toList path.toList)]⟩) := by rfl
  refine ⟨_, hbuild, (holds_iff_of_build hbuild _).2 (Or.inl (by decide +kernel)), fun h => ?_,
    (holds_iff_of_build hbuild _).2
      (Or.inr ⟨_, List.mem_singleton_self _, _, rfl, by decide +kernel⟩)⟩
  rcases (holds_iff_of_build hbuild _).1 h with hcovers | ⟨source, hsource, test, htest, hsearch⟩
  · revert hcovers
    decide +kernel
  · obtain rfl := List.mem_singleton.1 hsource
    cases htest
    revert hsearch
    decide +kernel

end PathFilter

end ComponentLint
