import ComponentLint.Proofs.CallArguments

/-!
Escaped commas.

A name becomes an argument when a backslash is put before each of its commas. While the arguments
are told apart an escaped comma is written as a mark, and then every mark is read as a comma, also
one that the name has held from the start. So the names are read back exactly when none holds the
mark.
-/

namespace ComponentLint

/-! ### Replacing -/

namespace Text

lemma replace_eq_self {old s : List Char} (h : ¬old <:+: s) (new : List Char) :
    replace old new s = s := by
  induction s with
  | nil => rfl
  | cons c cs ih =>
    have hprefix : old.isPrefixOf (c :: cs) = false :=
      isPrefixOf_eq_false_iff.2 fun hp => h hp.isInfix
    rw [replace_cons hprefix, ih fun hi => h (hi.trans (List.suffix_cons _ _).isInfix)]

lemma length_replace_le {old new : List Char} (h : new.length < old.length) (s : List Char) :
    (replace old new s).length ≤ s.length := by
  have hold : old ≠ [] := List.ne_nil_of_length_pos (by omega)
  induction s using occurrence_induction hold with
  | nil => exact le_rfl
  | found s ih =>
    rw [replace_append hold, List.length_append, List.length_append]
    omega
  | other c cs hprefix ih =>
    rw [replace_cons hprefix, List.length_cons, List.length_cons]
    omega

/-- Replacing by less shows where something was replaced. -/
lemma length_replace_lt {old new : List Char} (h : new.length < old.length) {s : List Char}
    (hs : old <:+: s) : (replace old new s).length < s.length := by
  have hold : old ≠ [] := List.ne_nil_of_length_pos (by omega)
  induction s using occurrence_induction hold with
  | nil => exact absurd (List.infix_nil.1 hs) hold
  | found s ih =>
    have hle := length_replace_le h s
    rw [replace_append hold, List.length_append, List.length_append]
    omega
  | other c cs hprefix ih =>
    have hcs : old <:+: cs :=
      (List.infix_cons_iff.1 hs).resolve_left (isPrefixOf_eq_false_iff.1 hprefix)
    have hlt := ih hcs
    rw [replace_cons hprefix, List.length_cons, List.length_cons]
    omega

lemma replace_eq_self_iff {old new : List Char} (h : new.length < old.length) (s : List Char) :
    replace old new s = s ↔ ¬old <:+: s := by
  refine ⟨fun heq hs => ?_, fun hs => replace_eq_self hs new⟩
  have hlt := length_replace_lt h hs
  rw [heq] at hlt
  exact lt_irrefl _ hlt

lemma isDecimal_of_isAsciiDigit {c : Char} (h : isAsciiDigit c) : isDecimal c := by
  have hle : c.toNat ≤ '9'.toNat := by
    simp only [isAsciiDigit, Bool.and_eq_true, decide_eq_true_eq] at h
    exact h.2
  have hlt : c.toNat < 128 := lt_of_le_of_lt hle (by decide)
  rw [isDecimal, decimalValue?, if_pos hlt, if_pos h]
  rfl

end Text

namespace Expression

/-! ### Names as arguments -/

/-- A name with each comma written as `comma`. -/
def commasAs (comma name : List Char) : List Char :=
  name.flatMap fun c => if c = ',' then comma else [c]

/-- The names as the arguments of a call. -/
def joinEscaped (names : List (List Char)) : List Char :=
  [','].intercalate (names.map (commasAs ['\\', ',']))

/-- A character that is neither stripped nor a negation, and that no literal starts with. -/
def mayStart (c : Char) : Bool :=
  !Text.isSpace c && !isQuote c && !Text.isDecimal c && c != '-' && c != '!'

/-- A name that an argument can be: nothing in it is cut off, unescaped or taken for a literal, a
member or an event. -/
structure IsEscapable (s : List Char) : Prop where
  chars : ∀ c ∈ s, c ∉ ['\\', '.', ':', '\n', '{', '}', '[', ']']
  first : s.head?.any mayStart
  last : s.getLast?.any fun c => !Text.isSpace c

instance (s : List Char) : Decidable (IsEscapable s) :=
  have : Decidable (∀ c ∈ s, c ∉ ['\\', '.', ':', '\n', '{', '}', '[', ']']) :=
    List.decidableBAll _ s
  decidable_of_iff
    ((∀ c ∈ s, c ∉ ['\\', '.', ':', '\n', '{', '}', '[', ']']) ∧ s.head?.any mayStart ∧
      s.getLast?.any fun c => !Text.isSpace c)
    ⟨fun ⟨hchars, hfirst, hlast⟩ => ⟨hchars, hfirst, hlast⟩,
      fun h => ⟨h.chars, h.first, h.last⟩⟩

/-- The name that is read for an escaped one. -/
def readBack (name : List Char) : List Char := Text.replace commaMark [','] name

@[simp] lemma commasAs_nil (comma : List Char) : commasAs comma [] = [] := rfl

lemma commasAs_cons (comma : List Char) (c : Char) (cs : List Char) :
    commasAs comma (c :: cs) = (if c = ',' then comma else [c]) ++ commasAs comma cs :=
  List.flatMap_cons

lemma commasAs_append (comma s t : List Char) :
    commasAs comma (s ++ t) = commasAs comma s ++ commasAs comma t :=
  List.flatMap_append

lemma mem_commasAs {comma s : List Char} {c : Char} (h : c ∈ commasAs comma s) :
    c ∈ comma ∨ c ∈ s := by
  obtain ⟨d, hd, hc⟩ := List.mem_flatMap.1 h
  split_ifs at hc
  · exact Or.inl hc
  · exact Or.inr (List.mem_singleton.1 hc ▸ hd)

lemma joinEscaped_singleton (name : List Char) :
    joinEscaped [name] = commasAs ['\\', ','] name := by
  simp [joinEscaped]

lemma joinEscaped_cons_cons (name name' : List Char) (names : List (List Char)) :
    joinEscaped (name :: name' :: names) =
      commasAs ['\\', ','] name ++ ',' :: joinEscaped (name' :: names) := by
  rw [joinEscaped, List.map_cons, List.map_cons, List.intercalate_cons_cons, List.append_assoc,
    List.singleton_append, ← List.map_cons]
  rfl

/-! ### Segments of escaped names -/

lemma segments_commasAs {name : List Char} (h : '\\' ∉ name) (s : List Char) :
    segments (commasAs ['\\', ','] name ++ s) =
      (segments s).modifyHead (commasAs ['\\', ','] name ++ ·) := by
  induction name with
  | nil => exact (congrFun List.modifyHead_id _).symm
  | cons c cs ih =>
    rw [List.mem_cons, not_or] at h
    rw [commasAs_cons]
    by_cases hc : c = ','
    · rw [if_pos hc, List.append_assoc, List.cons_append, List.cons_append, List.nil_append,
        segments_escaped, ih h.2, List.modifyHead_modifyHead]
      simp [Function.comp_def]
    · have hprefix : ['\\', ','].isPrefixOf (c :: (commasAs ['\\', ','] cs ++ s)) = false := by
        simp [List.isPrefixOf, h.1]
      rw [if_neg hc, List.append_assoc, List.singleton_append, segments_cons hprefix, if_neg hc,
        ih h.2, List.modifyHead_modifyHead]
      simp [Function.comp_def]

/-- The escaped names are the segments of what they are joined to. -/
lemma segments_joinEscaped {names : List (List Char)} (hne : names ≠ [])
    (h : ∀ n ∈ names, '\\' ∉ n) :
    segments (joinEscaped names) = names.map (commasAs ['\\', ',']) := by
  induction names with
  | nil => exact absurd rfl hne
  | cons n names ih =>
    rw [List.forall_mem_cons] at h
    cases names with
    | nil =>
      have hnil : segments [] = [[]] := rfl
      have hsegments := segments_commasAs h.1 []
      rw [hnil, List.modifyHead_cons, List.append_nil] at hsegments
      rw [joinEscaped_singleton, hsegments, List.map_singleton]
    | cons n' names =>
      have hcomma : segments (',' :: joinEscaped (n' :: names)) =
          [] :: segments (joinEscaped (n' :: names)) := by
        rw [segments_cons (by simp [List.isPrefixOf]), if_pos rfl]
      rw [joinEscaped_cons_cons, segments_commasAs h.1, hcomma, ih (List.cons_ne_nil _ _) h.2,
        List.modifyHead_cons, List.append_nil, ← List.map_cons]

lemma mark_commasAs {name : List Char} (h : '\\' ∉ name) :
    mark (commasAs ['\\', ','] name) = commasAs commaMark name := by
  induction name with
  | nil => rfl
  | cons c cs ih =>
    rw [List.mem_cons, not_or] at h
    rw [commasAs_cons, commasAs_cons]
    by_cases hc : c = ','
    · rw [if_pos hc, if_pos hc, List.cons_append, List.cons_append, List.nil_append, mark_escaped,
        ih h.2]
    · have hprefix : ['\\', ','].isPrefixOf (c :: commasAs ['\\', ','] cs) = false := by
        simp [List.isPrefixOf, h.1]
      rw [if_neg hc, if_neg hc, List.singleton_append, mark_cons hprefix, ih h.2,
        List.singleton_append]

/-! ### Reading the marks -/

lemma commaMark_eq : commaMark = ['&', 'c', 'o', 'm', 'm', 'a', ';'] := by decide

/-- Marks begin with a character of their own, so writing commas as marks makes no other
occurrence of what follows it in the mark. -/
lemma prefix_of_prefix_commasAs {p s : List Char} (hamp : '&' ∉ p)
    (h : p <+: commasAs commaMark s) : p <+: s := by
  induction p generalizing s with
  | nil => exact List.nil_prefix
  | cons d p ih =>
    rw [List.mem_cons, not_or] at hamp
    cases s with
    | nil => exact absurd (List.prefix_nil.1 h) (List.cons_ne_nil _ _)
    | cons c cs =>
      rw [commasAs_cons] at h
      split_ifs at h
      · exact absurd (List.cons_prefix_cons.1 h).1.symm hamp.1
      · obtain ⟨rfl, hrest⟩ := List.cons_prefix_cons.1 h
        exact List.cons_prefix_cons.2 ⟨rfl, ih hamp.2 hrest⟩

/-- **Marks that were commas are read as commas, and so are the others.** -/
lemma replace_commasAs (name : List Char) :
    Text.replace commaMark [','] (commasAs commaMark name) = readBack name := by
  have hmark : commaMark ≠ [] := by decide
  induction name using Text.occurrence_induction hmark with
  | nil => rfl
  | found s ih =>
    have hself : commasAs commaMark commaMark = commaMark := by decide
    rw [commasAs_append, hself, Text.replace_append hmark, ih, readBack, readBack,
      Text.replace_append hmark]
  | other c cs hprefix ih =>
    have hread : readBack (c :: cs) = c :: readBack cs := Text.replace_cons hprefix _
    rw [hread, ← ih, commasAs_cons]
    by_cases hc : c = ','
    · rw [if_pos hc, Text.replace_append hmark, hc]
      rfl
    · have hnot : commaMark.isPrefixOf (c :: commasAs commaMark cs) = false := by
        rw [Text.isPrefixOf_eq_false_iff] at hprefix ⊢
        intro hp
        rw [commaMark_eq, List.cons_prefix_cons] at hp hprefix
        rw [← commaMark_eq] at hp
        exact hprefix ⟨hp.1, prefix_of_prefix_commasAs (by decide) hp.2⟩
      rw [if_neg hc, List.singleton_append, Text.replace_cons hnot]

lemma readBack_eq_self_iff (name : List Char) : readBack name = name ↔ ¬commaMark <:+: name :=
  Text.replace_eq_self_iff (by decide) name

lemma mem_readBack {name : List Char} {c : Char} (h : c ∈ readBack name) : c = ',' ∨ c ∈ name :=
  (Text.mem_replace (by decide) h).imp_left List.mem_singleton.1

/-- What is read starts as the name does, or with a comma. -/
lemma readBack_starts {name : List Char} (h : name ≠ []) :
    ∃ d ds, readBack name = d :: ds ∧ (d = ',' ∨ name.head? = some d) := by
  obtain ⟨c, cs, rfl⟩ := List.exists_cons_of_ne_nil h
  cases hprefix : commaMark.isPrefixOf (c :: cs) with
  | false => exact ⟨c, _, Text.replace_cons hprefix _, Or.inr rfl⟩
  | true =>
    obtain ⟨v, hv⟩ := List.isPrefixOf_iff_prefix.1 hprefix
    refine ⟨',', Text.replace commaMark [','] v, ?_, Or.inl rfl⟩
    rw [readBack, ← hv, Text.replace_append (by decide)]
    rfl

lemma unescape_eq_self {s : List Char} (h : '\\' ∉ s) : unescape s = s := by
  induction s with
  | nil => rfl
  | cons c cs ih =>
    rw [List.mem_cons, not_or] at h
    have hc : c ≠ '\\' := Ne.symm h.1
    rw [unescape, ih h.2]
    exact fun _ _ heq => absurd heq hc

/-! ### Keys of escaped names -/

lemma isSpace_of_mayStart {c : Char} (h : mayStart c) : Text.isSpace c = false := by
  simp only [mayStart, Bool.and_eq_true, Bool.not_eq_true'] at h
  exact h.1.1.1.1

namespace IsEscapable

variable {name : List Char}

lemma ne_nil (h : IsEscapable name) : name ≠ [] := by
  rintro rfl
  exact Bool.false_ne_true h.first

lemma not_mem (h : IsEscapable name) {d : Char}
    (hd : d ∈ ['\\', '.', ':', '\n', '{', '}', '[', ']']) : d ∉ name :=
  fun hmem => h.chars d hmem hd

lemma mayStart_of_head? (h : IsEscapable name) {d : Char} (hd : name.head? = some d) :
    mayStart d := by
  simpa [hd] using h.first

lemma isSpace_of_getLast? (h : IsEscapable name) {d : Char} (hd : name.getLast? = some d) :
    Text.isSpace d = false := by
  simpa [hd] using h.last

/-- With its commas written as marks a name has no white space at its ends either. -/
lemma strip_commasAs (h : IsEscapable name) :
    Text.strip (commasAs commaMark name) = commasAs commaMark name := by
  refine Text.strip_of_ends (fun c hc => ?_) fun c hc => ?_
  · obtain ⟨d, ds, rfl⟩ := List.exists_cons_of_ne_nil h.ne_nil
    rw [commasAs_cons] at hc
    split_ifs at hc
    · obtain rfl : '&' = c := Option.some.inj hc
      decide
    · obtain rfl : d = c := Option.some.inj hc
      exact isSpace_of_mayStart (h.mayStart_of_head? rfl)
  · obtain ⟨s, d, rfl⟩ := (List.eq_nil_or_concat name).resolve_left h.ne_nil
    rw [List.concat_eq_append, commasAs_append, commasAs_cons, commasAs_nil,
      List.append_nil] at hc
    split_ifs at hc
    · rw [List.getLast?_append_of_ne_nil _ (by decide)] at hc
      obtain rfl : ';' = c := Option.some.inj hc
      decide
    · rw [List.getLast?_append_of_ne_nil _ (List.cons_ne_nil _ _)] at hc
      obtain rfl : d = c := Option.some.inj hc
      exact h.isSpace_of_getLast? (by simp)

lemma point_not_mem_readBack (h : IsEscapable name) : '.' ∉ readBack name := fun hmem =>
  (mem_readBack hmem).elim (by decide) (h.not_mem (by decide))

/-- What is read may start an argument too. -/
lemma exists_readBack (h : IsEscapable name) :
    ∃ d ds, readBack name = d :: ds ∧ mayStart d ∧ d ∉ ['\n', '.'] := by
  obtain ⟨d, ds, hread, hfirst⟩ := readBack_starts h.ne_nil
  refine ⟨d, ds, hread, ?_⟩
  rcases hfirst with rfl | hd
  · decide
  · refine ⟨h.mayStart_of_head? hd, fun hmem => ?_⟩
    refine h.chars d (List.mem_of_mem_head? hd) ?_
    simp only [List.mem_cons, List.not_mem_nil, or_false] at hmem ⊢
    tauto

lemma argument_escaped (h : IsEscapable name) :
    argument (mark (commasAs ['\\', ','] name)) = .path (readBack name) false false := by
  have hbackslash : '\\' ∉ readBack name := fun hmem =>
    (mem_readBack hmem).elim (by decide) (h.not_mem (by decide))
  have hpoint := h.point_not_mem_readBack
  obtain ⟨d, ds, hread, hfirst, -⟩ := h.exists_readBack
  simp only [mayStart, Bool.and_eq_true, Bool.not_eq_true'] at hfirst
  obtain ⟨⟨⟨⟨-, hquote⟩, hdecimal⟩, -⟩, -⟩ := hfirst
  have hdigit : Text.isAsciiDigit d = false := by
    rw [Bool.eq_false_iff] at hdecimal ⊢
    exact fun hd => hdecimal (Text.isDecimal_of_isAsciiDigit hd)
  rw [hread, List.mem_cons, not_or] at hpoint
  rw [argument, mark_commasAs (h.not_mem (by decide)), h.strip_commasAs, replace_commasAs,
    unescape_eq_self hbackslash, hread]
  simp [hquote, hdigit, hpoint.2]

lemma primaryName_readBack (h : IsEscapable name) :
    primaryName (readBack name) = readBack name := by
  have hpoint := h.point_not_mem_readBack
  obtain ⟨d, ds, hread, hfirst, hline⟩ := h.exists_readBack
  simp only [mayStart, Bool.and_eq_true, Bool.not_eq_true', bne_iff_ne] at hfirst
  obtain ⟨⟨⟨⟨-, hquote⟩, hdecimal⟩, hminus⟩, hbang⟩ := hfirst
  simp only [List.mem_cons, List.not_mem_nil, or_false, not_or] at hline
  have hliteral : isLiteral (d :: ds) = false :=
    isLiteral_eq_false_of_first hline.1 hquote hminus hline.2 hdecimal ds
  rw [hread] at hpoint ⊢
  rw [primaryName, if_neg hbang, hliteral, if_neg Bool.false_ne_true,
    List.takeWhile_eq_self_iff.2 fun c hc => ?_]
  simpa using fun heq : c = '.' => hpoint (heq ▸ hc)

/-- The key of an escaped name. -/
lemma segmentKey_escaped (h : IsEscapable name) :
    segmentKey (commasAs ['\\', ','] name) = String.ofList (readBack name) := by
  rw [segmentKey, h.argument_escaped, Argument.key, Argument.name, h.primaryName_readBack]

end IsEscapable

/-! ### Calls with escaped names -/

variable {names : List (List Char)}

lemma mem_joinEscaped {c : Char} (h : c ∈ joinEscaped names) :
    c = ',' ∨ c = '\\' ∨ ∃ n ∈ names, c ∈ n := by
  have hescaped : ∀ n : List Char, c ∈ commasAs ['\\', ','] n → c = ',' ∨ c = '\\' ∨ c ∈ n := by
    intro n hc
    rcases mem_commasAs hc with hc | hc
    · simp only [List.mem_cons, List.not_mem_nil, or_false] at hc
      tauto
    · exact Or.inr (Or.inr hc)
  induction names with
  | nil => exact absurd h List.not_mem_nil
  | cons n names ih =>
    have hfirst : c ∈ commasAs ['\\', ','] n → c = ',' ∨ c = '\\' ∨ ∃ m ∈ n :: names, c ∈ m :=
      fun hc => (hescaped n hc).imp_right fun hc =>
        hc.imp_right fun hc => ⟨n, List.mem_cons_self, hc⟩
    cases names with
    | nil => exact hfirst (joinEscaped_singleton n ▸ h)
    | cons n' names =>
      rw [joinEscaped_cons_cons, List.mem_append, List.mem_cons] at h
      rcases h with hc | hc | hc
      · exact hfirst hc
      · exact Or.inl hc
      · refine (ih hc).imp_right fun hc => hc.imp_right ?_
        rintro ⟨m, hm, hc⟩
        exact ⟨m, List.mem_cons_of_mem _ hm, hc⟩

lemma isArgumentText_joinEscaped (h : ∀ n ∈ names, IsEscapable n) :
    IsArgumentText (joinEscaped names) := by
  have hnot : ∀ d ∈ [':', '\n', '{', '}', '[', ']'], d ∉ joinEscaped names := by
    intro d hd hmem
    rcases mem_joinEscaped hmem with rfl | rfl | ⟨n, hn, hmem⟩
    · exact absurd hd (by decide)
    · exact absurd hd (by decide)
    · refine (h n hn).not_mem ?_ hmem
      simp only [List.mem_cons] at hd ⊢
      tauto
  refine ⟨fun c hc hmem => hnot c (List.mem_cons_of_mem _ hmem) hc, fun hevent => ?_⟩
  exact hnot ':' List.mem_cons_self (hevent.subset List.mem_cons_self)

lemma isBlank_joinEscaped (hne : names ≠ []) (h : ∀ n ∈ names, IsEscapable n) :
    Text.isBlank (joinEscaped names) = false := by
  obtain ⟨n, names, rfl⟩ := List.exists_cons_of_ne_nil hne
  have hn := h n List.mem_cons_self
  obtain ⟨c, cs, rfl⟩ := List.exists_cons_of_ne_nil hn.ne_nil
  -- the first character, which is a backslash if the name starts with a comma
  have hfirst : ∃ d ∈ commasAs ['\\', ','] (c :: cs), Text.isSpace d = false := by
    rw [commasAs_cons]
    split_ifs
    · exact ⟨'\\', by simp, by decide⟩
    · exact ⟨c, by simp, isSpace_of_mayStart (hn.mayStart_of_head? rfl)⟩
  obtain ⟨d, hd, hspace⟩ := hfirst
  refine List.all_eq_false.2 ⟨d, ?_, Bool.eq_false_iff.1 hspace⟩
  cases names with
  | nil => rwa [joinEscaped_singleton]
  | cons n' names =>
    rw [joinEscaped_cons_cons]
    exact List.mem_append_left _ hd

lemma keys_joinEscaped {method : List Char} (hmethod : IsMethod method) (hne : names ≠ [])
    (hnames : ∀ n ∈ names, IsEscapable n) :
    (parse (callText method (joinEscaped names))).keys =
      names.map fun n => String.ofList (readBack n) := by
  have hbackslash : ∀ n ∈ names, '\\' ∉ n := fun n hn => (hnames n hn).not_mem (by decide)
  rw [parse_of_call hmethod (isArgumentText_joinEscaped hnames),
    if_neg (Bool.eq_false_iff.1 (isBlank_joinEscaped hne hnames)),
    segments_joinEscaped hne hbackslash, List.map_map]
  exact List.map_congr_left fun n hn => (hnames n hn).segmentKey_escaped

/-- **Escaped names are read back exactly when none of them holds the mark of an escaped comma**; in
those that do, each mark is read as a comma. -/
theorem keys_of_escaped_names (method : List Char) (names : List (List Char))
    (hmethod : IsMethod method) (hne : names ≠ []) (hnames : ∀ n ∈ names, IsEscapable n) :
    (parse (callText method (joinEscaped names))).keys =
      names.map (fun n => String.ofList (Text.replace commaMark [','] n)) ∧
    ((parse (callText method (joinEscaped names))).keys = names.map String.ofList ↔
      ∀ n ∈ names, ¬commaMark <:+: n) := by
  have hkeys := keys_joinEscaped hmethod hne hnames
  refine ⟨hkeys, ?_⟩
  rw [hkeys, List.map_inj_left]
  refine forall₂_congr fun n _ => ?_
  rw [String.ofList_inj, readBack_eq_self_iff]

/-- Names with commas at both ends, parentheses and a part of the mark. -/
def listedNames : List (List Char) := [",a,b,".toList, "c (d,e)".toList, "&comma,;".toList]

theorem keys_listedNames :
    joinEscaped listedNames = "\\,a\\,b\\,,c (d\\,e),&comma\\,;".toList ∧
    (parse (callText "list".toList (joinEscaped listedNames))).keys =
      [",a,b,", "c (d,e)", "&comma,;"] := by
  have hnames : ∀ n ∈ listedNames, IsEscapable n := by decide +kernel
  have hmark : ∀ n ∈ listedNames, ¬commaMark <:+: n := by decide +kernel
  refine ⟨by decide +kernel, ?_⟩
  rw [(keys_of_escaped_names _ _ (by decide) (by decide) hnames).2.2 hmark]
  decide +kernel

/-- A name that holds the mark is read as another one. -/
theorem keys_markedName :
    (∀ n ∈ ["a&comma;b".toList], IsEscapable n) ∧
    joinEscaped ["a&comma;b".toList] = "a&comma;b".toList ∧
    (parse (callText "f".toList (joinEscaped ["a&comma;b".toList]))).keys = ["a,b"] ∧
    (parse (callText "f".toList (joinEscaped ["a&comma;b".toList]))).keys ≠ ["a&comma;b"] := by
  decide +kernel

end Expression

end ComponentLint
