import ComponentLint.Markup.Event
import ComponentLint.Proofs.DocumentOrder

/-!
Trees from events.

The builder keeps the open elements apart and joins them to the tree when they are closed, so the
nodes of a tree come together in an order of their own. Here a journal of the events is kept beside
it, without any tree: which nodes are made, one after the other, and which tags are open. The walk
over the finished document visits the nodes of the journal in its order, for every sequence of
events, and what holds of the journal (texts are kept, locations are those of the events) holds of
the document.
-/

namespace ComponentLint

/-- The first location is the second one or before it. -/
def Location.NotAfter (a b : Location) : Prop :=
  a.line < b.line ∨ a.line = b.line ∧ a.column ≤ b.column

end ComponentLint

namespace ComponentLint.Markup

/-! ### Nodes in document order -/

namespace Node

mutual

/-- A node and all nodes below it, in document order. -/
def preorder : Node → List Node
  | text l v => [text l v]
  | element l t as cs => element l t as cs :: preorderAll cs

def preorderAll : List Node → List Node
  | [] => []
  | n :: ns => n.preorder ++ preorderAll ns

end

lemma preorderAll_eq (ns : List Node) : preorderAll ns = ns.flatMap preorder := by
  induction ns with
  | nil => rw [preorderAll]; rfl
  | cons n ns ih => rw [preorderAll, ih, List.flatMap_cons]

lemma preorder_eq (n : Node) : n.preorder = n :: n.children.flatMap preorder := by
  cases n with
  | text l v => rw [preorder]; rfl
  | element l t as cs => rw [preorder, preorderAll_eq]; rfl

/-- The node as it is made, before anything is put into it. -/
def bare : Node → Node
  | text l v => text l v
  | element l t as _ => element l t as []

def isText : Node → Bool
  | text .. => true
  | element .. => false

/-- The characters of a text, none of an element. -/
def value : Node → String
  | text _ v => v
  | element .. => ""

/-- The nodes of a forest as they are made, in document order. -/
def outline (ns : List Node) : List Node := (ns.flatMap preorder).map bare

@[simp] lemma outline_nil : outline [] = [] := rfl

@[simp] lemma outline_append (ms ns : List Node) :
    outline (ms ++ ns) = outline ms ++ outline ns := by
  simp [outline]

@[simp] lemma outline_text (l : Location) (v : String) : outline [text l v] = [text l v] := by
  simp [outline, preorder, bare]

@[simp] lemma outline_element (l : Location) (t : String) (as : List Attribute)
    (cs : List Node) : outline [element l t as cs] = element l t as [] :: outline cs := by
  simp [outline, preorder, preorderAll_eq, bare]

end Node

/-- The walk from a place visits the nodes below it in document order. -/
lemma Place.map_item_walk (p : Place) : p.walk.map (·.item) =
    p.item :: (p.item.children.flatMap Node.preorder).map .node := by
  induction p using Place.induction_children with
  | step p ih =>
    rw [Place.walk_eq, List.map_cons, List.map_flatMap]
    congr 1
    have hnodes : ∀ (i : ℕ) (ns : List Node),
        (∀ c ∈ childrenFrom p.href p.item p.above i ns, c ∈ p.children) →
        (childrenFrom p.href p.item p.above i ns).flatMap (fun c => c.walk.map (·.item)) =
          (ns.flatMap Node.preorder).map .node := by
      intro i ns hmem
      induction ns generalizing i with
      | nil => rfl
      | cons n ns ihns =>
        rw [childrenFrom, List.forall_mem_cons] at hmem
        rw [childrenFrom, List.flatMap_cons, List.flatMap_cons, List.map_append,
          ihns (i + 1) hmem.2, ih _ hmem.1, n.preorder_eq]
        rfl
    exact hnodes 0 p.item.children fun c hc => hc

/-! ### The journal -/

/-- What some events make, told without a tree. -/
structure Journal where
  /-- The nodes made so far, the last one first, without what is put into them. -/
  made : List Node := []
  /-- The tags that are open, the innermost first. -/
  openTags : List String := []
  /-- Whether character data goes on with the last text. -/
  inText : Bool := false

namespace Journal

def step (j : Journal) (location : Location) : Event → Journal
  | .start tag attributes =>
    { made := .element location tag attributes [] :: j.made
      openTags := if isVoid tag then j.openTags else tag :: j.openTags }
  | .single tag attributes =>
    { j with made := .element location tag attributes [] :: j.made, inText := false }
  | .stop tag =>
    if tag ∈ j.openTags then
      { j with openTags := j.openTags.drop (j.openTags.idxOf tag + 1), inText := false }
    else j
  | .data text =>
    match j.inText, j.made with
    | true, .text l v :: rest => { j with made := .text l (v ++ text) :: rest }
    | _, made => { j with made := .text location text :: made, inText := true }

/-- The journal of a sequence of events. -/
def ofEvents (events : List (Location × Event)) : Journal :=
  events.foldl (fun j e => j.step e.1 e.2) {}

lemma ofEvents_append (events : List (Location × Event)) (e : Location × Event) :
    ofEvents (events ++ [e]) = (ofEvents events).step e.1 e.2 := by
  simp [ofEvents]

end Journal

/-- The nodes that events make, in the order in which they are made. -/
def created (events : List (Location × Event)) : List Node := (Journal.ofEvents events).made.reverse

/-- The character data of an event. -/
def Event.dataText : Event → String
  | .data text => text
  | _ => ""

lemma Journal.locations_step {j : Journal} {ls : List Location}
    (h : (j.made.map Node.location).reverse.Sublist ls) (location : Location) (e : Event) :
    ((j.step location e).made.map Node.location).reverse.Sublist (ls ++ [location]) := by
  have hkept : (j.made.map Node.location).reverse.Sublist (ls ++ [location]) :=
    h.trans (List.sublist_append_left ls [location])
  have hmade : ((j.made.map Node.location).reverse ++ [location]).Sublist (ls ++ [location]) :=
    h.append (List.Sublist.refl _)
  cases e with
  | start tag attributes => simpa [step, Node.location] using hmade
  | single tag attributes => simpa [step, Node.location] using hmade
  | stop tag =>
    simp only [step]
    split_ifs <;> exact hkept
  | data text =>
    simp only [step]
    split
    · next l v rest _ hhead =>
      rw [hhead] at hkept
      simpa [Node.location] using hkept
    · simpa [Node.location] using hmade

/-- The nodes are located at events, in the order of the events. -/
lemma created_locations_sublist (events : List (Location × Event)) :
    ((created events).map Node.location).Sublist (events.map (·.1)) := by
  rw [created, List.map_reverse]
  induction events using List.reverseRecOn with
  | nil => exact List.Sublist.refl _
  | append_singleton events e ih =>
    rw [Journal.ofEvents_append, List.map_append]
    exact Journal.locations_step ih e.1 e.2

lemma Journal.texts_step (j : Journal) (location : Location) (e : Event) :
    ((j.step location e).made.map Node.value).reverse.foldl (· ++ ·) "" =
      (j.made.map Node.value).reverse.foldl (· ++ ·) "" ++ e.dataText := by
  cases e with
  | start tag attributes => simp [step, Node.value, Event.dataText]
  | single tag attributes => simp [step, Node.value, Event.dataText]
  | stop tag =>
    simp only [step, Event.dataText, String.append_empty]
    split_ifs <;> rfl
  | data text =>
    simp only [step, Event.dataText]
    split
    · next l v rest _ hhead => simp [hhead, Node.value, String.append_assoc]
    · simp [Node.value]

/-- The texts hold the character data of the events. -/
lemma created_texts (events : List (Location × Event)) :
    String.join ((created events).map Node.value) = String.join (events.map (·.2.dataText)) := by
  rw [created, List.map_reverse, String.join, String.join]
  induction events using List.reverseRecOn with
  | nil => rfl
  | append_singleton events e ih =>
    rw [Journal.ofEvents_append, Journal.texts_step, ih]
    simp

/-! ### The builder keeps the journal -/

namespace Builder

/-- The nodes before the current position in the innermost open element, the last one first. -/
def current (b : Builder) : List Node :=
  match b.frames with
  | [] => b.done
  | top :: _ => top.done

/-- The nodes of open elements as they are made, the outermost element first. -/
def framesOutline : List Frame → List Node
  | [] => []
  | f :: fs =>
    framesOutline fs ++ .element f.location f.tag f.attributes [] :: Node.outline f.done.reverse

/-- The nodes of a tree under construction as they are made, in document order. -/
def outline (b : Builder) : List Node := Node.outline b.done.reverse ++ framesOutline b.frames

@[simp] lemma current_modify (b : Builder) (f : List Node → List Node) :
    (b.modify f).current = f b.current := by
  rw [modify, current, current]
  cases b.frames <;> rfl

@[simp] lemma tags_modify (b : Builder) (f : List Node → List Node) :
    (b.modify f).frames.map (·.tag) = b.frames.map (·.tag) := by
  rw [modify]
  cases b.frames <;> simp

lemma modify_id (b : Builder) : b.modify id = b := by
  obtain ⟨frames, done⟩ := b
  cases frames <;> rfl

/-- The current position is behind all nodes made so far. -/
lemma exists_outline_modify (b : Builder) :
    ∃ before, ∀ f, (b.modify f).outline = before ++ Node.outline (f b.current).reverse := by
  obtain ⟨frames, done⟩ := b
  cases frames with
  | nil => exact ⟨[], fun f => by simp [modify, outline, current, framesOutline]⟩
  | cons top rest =>
    refine ⟨Node.outline done.reverse ++ framesOutline rest ++
      [.element top.location top.tag top.attributes []], fun f => ?_⟩
    simp [modify, outline, current, framesOutline]

lemma outline_put (b : Builder) (n : Node) :
    (b.put n).outline = b.outline ++ Node.outline [n] := by
  obtain ⟨before, h⟩ := b.exists_outline_modify
  have hid := h id
  rw [modify_id] at hid
  rw [put, h, hid]
  simp

/-- Closing an element changes nothing in the order. -/
@[simp] lemma outline_pop (b : Builder) : b.pop.outline = b.outline := by
  obtain ⟨frames, done⟩ := b
  cases frames with
  | nil => rfl
  | cons top rest =>
    have hput := outline_put { frames := rest, done := done } top.close
    rw [Frame.close, Node.outline_element] at hput
    rw [pop]
    simp only
    rw [Frame.close, hput]
    simp [outline, framesOutline]

@[simp] lemma outline_popMany (b : Builder) (n : ℕ) : (b.popMany n).outline = b.outline := by
  induction n generalizing b with
  | zero => rfl
  | succ n ih => rw [popMany, ih, outline_pop]

lemma tags_pop (b : Builder) : b.pop.frames.map (·.tag) = (b.frames.map (·.tag)).tail := by
  obtain ⟨frames, done⟩ := b
  cases frames with
  | nil => rfl
  | cons top rest => simp [pop, put]

lemma tags_popMany (b : Builder) (n : ℕ) :
    (b.popMany n).frames.map (·.tag) = (b.frames.map (·.tag)).drop n := by
  induction n generalizing b with
  | zero => rfl
  | succ n ih => rw [popMany, ih, tags_pop, List.drop_tail, Nat.add_comm]

lemma depthOf_eq (tag : String) (frames : List Frame) :
    depthOf tag frames =
      if tag ∈ frames.map (·.tag) then (frames.map (·.tag)).idxOf tag + 1 else 0 := by
  have hfind : frames.findIdx? (·.tag == tag) = (frames.map (·.tag)).idxOf? tag := by
    rw [List.idxOf?, List.findIdx?_map]
    rfl
  rw [depthOf, hfind]
  split_ifs with hopen
  · cases hidx : (frames.map (·.tag)).idxOf? tag with
    | none => exact absurd hopen (List.idxOf?_eq_none_iff.1 hidx)
    | some i => exact congrArg (· + 1) (List.findIdx?_eq_some_iff_findIdx_eq.1 hidx).2.symm
  · rw [List.idxOf?_eq_none_iff.2 hopen]

/-- After an element is closed it is what stands before the current position. -/
lemma current_popMany (b : Builder) {n : ℕ} (hn : n < b.frames.length) :
    ∃ f rest, (b.popMany (n + 1)).current = Frame.close f :: rest := by
  induction n generalizing b with
  | zero =>
    obtain ⟨frames, done⟩ := b
    cases frames with
    | nil => simp at hn
    | cons top rest => exact ⟨top, _, by simp [popMany, pop, put]; rfl⟩
  | succ n ih =>
    obtain ⟨frames, done⟩ := b
    cases frames with
    | nil => simp at hn
    | cons top rest =>
      rw [popMany]
      refine ih _ ?_
      have := congrArg List.length (tags_pop ⟨top :: rest, done⟩)
      simp at this hn
      omega

/-- The builder has made the nodes of the journal, with the same elements open. -/
structure Keeps (b : Builder) (j : Journal) : Prop where
  outline_eq : b.outline = j.made.reverse
  tags_eq : b.frames.map (·.tag) = j.openTags
  inText_iff : j.inText = true ↔ ∃ l v rest, b.current = .text l v :: rest

lemma Keeps.put {b : Builder} {j : Journal} (h : b.Keeps j) (l : Location) (t : String)
    (as : List Attribute) : (b.put (.element l t as [])).Keeps
      { j with made := .element l t as [] :: j.made, inText := false } where
  outline_eq := by rw [outline_put, h.outline_eq]; simp
  tags_eq := by rw [Builder.put, tags_modify, h.tags_eq]
  inText_iff := by simp [Builder.put]

lemma Keeps.open {b : Builder} {j : Journal} (h : b.Keeps j) (l : Location) (t : String)
    (as : List Attribute) : Keeps { b with frames := ⟨l, t, as, []⟩ :: b.frames }
      { made := .element l t as [] :: j.made, openTags := t :: j.openTags } where
  outline_eq := by
    have houtline := h.outline_eq
    rw [Builder.outline] at houtline
    simp [Builder.outline, framesOutline, ← houtline]
  tags_eq := by simp [h.tags_eq]
  inText_iff := by simp [current]

lemma Keeps.close {b : Builder} {j : Journal} (h : b.Keeps j) {tag : String}
    (hopen : tag ∈ j.openTags) : (b.popMany (j.openTags.idxOf tag + 1)).Keeps
      { j with openTags := j.openTags.drop (j.openTags.idxOf tag + 1), inText := false } where
  outline_eq := by rw [outline_popMany, h.outline_eq]
  tags_eq := by rw [tags_popMany, h.tags_eq]
  inText_iff := by
    have hlt : j.openTags.idxOf tag < b.frames.length := by
      have hlength : (b.frames.map (·.tag)).length = b.frames.length := List.length_map ..
      rw [← hlength, h.tags_eq]
      exact List.idxOf_lt_length_of_mem hopen
    obtain ⟨f, rest, hcurrent⟩ := b.current_popMany hlt
    simp [hcurrent, Frame.close]

lemma Keeps.newText {b : Builder} {j : Journal} (h : b.Keeps j) (l : Location) (v : String) :
    (b.modify (.text l v :: ·)).Keeps { j with made := .text l v :: j.made, inText := true } where
  outline_eq := by
    have hput := b.outline_put (.text l v)
    rw [Builder.put] at hput
    rw [hput, h.outline_eq]
    simp
  tags_eq := by rw [tags_modify, h.tags_eq]
  inText_iff := by simp

/-- A text before the current position is the last node made. -/
lemma Keeps.exists_made {b : Builder} {j : Journal} (h : b.Keeps j) {l : Location} {v : String}
    {rest : List Node} (hcurrent : b.current = .text l v :: rest) :
    ∃ made, j.made = .text l v :: made ∧
      ∀ n, (b.modify fun _ => n :: rest).outline = made.reverse ++ Node.outline [n] := by
  obtain ⟨before, hmodify⟩ := b.exists_outline_modify
  have hid := hmodify id
  rw [modify_id, h.outline_eq, hcurrent] at hid
  refine ⟨(before ++ Node.outline rest.reverse).reverse, ?_, fun n => ?_⟩
  · rw [← List.reverse_inj, hid]
    simp
  · rw [hmodify]
    simp

lemma Keeps.moreText {b : Builder} {j : Journal} (h : b.Keeps j) {l : Location} {v : String}
    {rest made : List Node} (hcurrent : b.current = .text l v :: rest)
    (hoverwrite : ∀ n, (b.modify fun _ => n :: rest).outline = made.reverse ++ Node.outline [n])
    (more : String) : (b.modify fun _ => .text l (v ++ more) :: rest).Keeps
      { j with made := .text l (v ++ more) :: made } where
  outline_eq := by rw [hoverwrite]; simp
  tags_eq := by rw [tags_modify, h.tags_eq]
  inText_iff := by
    have hin : j.inText = true := h.inText_iff.2 ⟨l, v, rest, hcurrent⟩
    simp [hin]

lemma addText_of_text (location l : Location) (value v : String) (rest : List Node) :
    addText location value (.text l v :: rest) = .text l (v ++ value) :: rest := rfl

lemma addText_of_not_text {location : Location} {value : String} {done : List Node}
    (h : ¬∃ l v rest, done = .text l v :: rest) :
    addText location value done = .text location value :: done := by
  rw [addText]
  rintro l v rest rfl
  exact h ⟨l, v, rest, rfl⟩

lemma modify_congr {b : Builder} {f g : List Node → List Node} (h : f b.current = g b.current) :
    b.modify f = b.modify g := by
  obtain ⟨frames, done⟩ := b
  cases frames with
  | nil => exact congrArg (fun d => ({ frames := [], done := d } : Builder)) h
  | cons top rest =>
    exact congrArg
      (fun d => ({ frames := { top with done := d } :: rest, done := done } : Builder)) h

/-- One event is the same step for the builder and for the journal. -/
lemma Keeps.step {b : Builder} {j : Journal} (h : b.Keeps j) (location : Location) (e : Event) :
    (b.step location e).Keeps (j.step location e) := by
  cases e with
  | start tag attributes =>
    simp only [Builder.step, Journal.step]
    split_ifs with hvoid
    · exact h.put location tag attributes
    · exact h.open location tag attributes
  | single tag attributes => exact h.put location tag attributes
  | stop tag =>
    simp only [Builder.step, Journal.step, depthOf_eq, h.tags_eq]
    split_ifs with hopen
    · exact h.close hopen
    · exact h
  | data text =>
    by_cases hin : ∃ l v rest, b.current = .text l v :: rest
    · obtain ⟨l, v, rest, hcurrent⟩ := hin
      obtain ⟨made, hmade, hoverwrite⟩ := h.exists_made hcurrent
      have hstep : b.step location (.data text) =
          b.modify fun _ => .text l (v ++ text) :: rest := by
        refine modify_congr ?_
        rw [hcurrent, addText_of_text]
      have hjournal : j.step location (.data text) =
          { j with made := .text l (v ++ text) :: made } := by
        simp only [Journal.step, h.inText_iff.2 ⟨l, v, rest, hcurrent⟩, hmade]
      rw [hstep, hjournal]
      exact h.moreText hcurrent hoverwrite text
    · have hnot : j.inText = false := by
        rw [← Bool.not_eq_true, h.inText_iff]
        exact hin
      have hstep : b.step location (.data text) = b.modify (.text location text :: ·) :=
        modify_congr (addText_of_not_text hin)
      rw [hstep, Journal.step, hnot]
      exact h.newText location text

lemma run_append (b : Builder) (events : List (Location × Event)) (e : Location × Event) :
    b.run (events ++ [e]) = (b.run events).step e.1 e.2 := by
  simp [run]

/-- The builder keeps the journal over a whole run. -/
lemma keeps_run (events : List (Location × Event)) :
    (run {} events).Keeps (Journal.ofEvents events) := by
  induction events using List.reverseRecOn with
  | nil => exact ⟨rfl, rfl, by simp [Journal.ofEvents, run, current]⟩
  | append_singleton events e ih =>
    rw [run_append, Journal.ofEvents_append]
    exact ih.step e.1 e.2

/-- The finished forest has the nodes of the journal, in its order. -/
lemma outline_finish (b : Builder) : Node.outline b.finish = b.outline := by
  have hnone : (b.popMany b.frames.length).frames = [] := by
    rw [← List.map_eq_nil_iff (f := Frame.tag)]
    exact (tags_popMany ..).trans (by simp)
  have hpopped := b.outline_popMany b.frames.length
  rw [outline, hnone] at hpopped
  simpa [finish, framesOutline] using hpopped

end Builder

/-- The nodes of a document are those its events make, in the order in which they make them. -/
lemma outline_ofEvents (href : String) (events : List (Location × Event)) :
    Node.outline (Document.ofEvents href events).children = created events := by
  rw [Document.ofEvents, Builder.outline_finish, (Builder.keeps_run events).outline_eq, created]

/-! ### Void elements and neighbouring texts -/

/-- Not both are texts. -/
def Node.Apart (m n : Node) : Prop := ¬(m.isText ∧ n.isText)

/-- A void element is empty, and no two neighbours inside an element are texts. -/
structure Node.Proper (n : Node) : Prop where
  void : ∀ l t as cs, n = .element l t as cs → isVoid t → cs = []
  apart : n.children.IsChain Node.Apart

/-- Siblings, the last one first, that are proper with all that is below them. -/
structure ProperForest (ns : List Node) : Prop where
  apart : ns.IsChain Node.Apart
  proper : ∀ n ∈ ns, ∀ m ∈ n.preorder, m.Proper

lemma ProperForest.cons_element {ns : List Node} (h : ProperForest ns) {l : Location} {t : String}
    {as : List Attribute} {cs : List Node}
    (hproper : ∀ m ∈ (Node.element l t as cs).preorder, m.Proper) :
    ProperForest (.element l t as cs :: ns) where
  apart := List.isChain_cons.2 ⟨fun m _ => by simp [Node.Apart, Node.isText], h.apart⟩
  proper := List.forall_mem_cons.2 ⟨hproper, h.proper⟩

lemma Node.proper_of_mem_preorder_text {l : Location} {v : String} {m : Node}
    (h : m ∈ (Node.text l v).preorder) : m.Proper := by
  rw [Node.preorder, List.mem_singleton] at h
  subst h
  exact ⟨by simp, List.isChain_nil⟩

lemma Node.proper_of_mem_preorder_empty {l : Location} {t : String} {as : List Attribute}
    {m : Node} (h : m ∈ (Node.element l t as []).preorder) : m.Proper := by
  rw [Node.preorder, Node.preorderAll, List.mem_singleton] at h
  subst h
  exact ⟨by rintro _ _ _ _ ⟨⟩ _; rfl, List.isChain_nil⟩

lemma ProperForest.addText {ns : List Node} (h : ProperForest ns) (location : Location)
    (value : String) : ProperForest (Builder.addText location value ns) := by
  by_cases hin : ∃ l v rest, ns = .text l v :: rest
  · obtain ⟨l, v, rest, rfl⟩ := hin
    obtain ⟨hapart, hproper⟩ := h
    rw [Builder.addText_of_text]
    rw [List.isChain_cons] at hapart
    rw [List.forall_mem_cons] at hproper
    exact ⟨List.isChain_cons.2 hapart,
      List.forall_mem_cons.2 ⟨fun m hm => Node.proper_of_mem_preorder_text hm, hproper.2⟩⟩
  · rw [Builder.addText_of_not_text hin]
    refine ⟨List.isChain_cons.2 ⟨?_, h.apart⟩,
      List.forall_mem_cons.2 ⟨fun m hm => Node.proper_of_mem_preorder_text hm, h.proper⟩⟩
    intro m hm htexts
    cases m with
    | element => exact absurd htexts.2 (by simp [Node.isText])
    | text l v =>
      obtain ⟨rest, hns⟩ := List.head?_eq_some_iff.1 hm
      exact hin ⟨l, v, rest, hns⟩

lemma ProperForest.reverse {ns : List Node} (h : ProperForest ns) :
    ns.reverse.IsChain Node.Apart := by
  rw [List.isChain_reverse]
  exact h.apart.imp fun m n hapart htexts => hapart ⟨htexts.2, htexts.1⟩

lemma Frame.proper_of_mem_preorder_close {f : Frame} (hvoid : ¬isVoid f.tag)
    (hdone : ProperForest f.done) {m : Node} (hm : m ∈ f.close.preorder) : m.Proper := by
  rw [Node.preorder_eq, List.mem_cons, List.mem_flatMap] at hm
  rcases hm with rfl | ⟨n, hn, hm⟩
  · refine ⟨?_, hdone.reverse⟩
    rintro l t as cs ⟨⟩ ht
    exact absurd ht hvoid
  · exact hdone.proper n (List.mem_reverse.1 hn) m hm

namespace Builder

/-- The nodes of a tree under construction are proper, and what is open is not void. -/
structure Proper (b : Builder) : Prop where
  done : ProperForest b.done
  frames : ∀ f ∈ b.frames, ¬isVoid f.tag ∧ ProperForest f.done

lemma Proper.modify {b : Builder} (h : b.Proper) {f : List Node → List Node}
    (hf : ∀ ns, ProperForest ns → ProperForest (f ns)) : (b.modify f).Proper := by
  obtain ⟨frames, done⟩ := b
  obtain ⟨hdone, hframes⟩ := h
  cases frames with
  | nil => exact ⟨hf done hdone, by simp [Builder.modify]⟩
  | cons top rest =>
    rw [List.forall_mem_cons] at hframes
    exact ⟨hdone, List.forall_mem_cons.2 ⟨⟨hframes.1.1, hf _ hframes.1.2⟩, hframes.2⟩⟩

lemma Proper.put {b : Builder} (h : b.Proper) {l : Location} {t : String} {as : List Attribute}
    {cs : List Node} (hproper : ∀ m ∈ (Node.element l t as cs).preorder, m.Proper) :
    (b.put (.element l t as cs)).Proper :=
  h.modify fun _ hns => hns.cons_element hproper

lemma Proper.pop {b : Builder} (h : b.Proper) : b.pop.Proper := by
  obtain ⟨frames, done⟩ := b
  obtain ⟨hdone, hframes⟩ := h
  cases frames with
  | nil => exact ⟨hdone, hframes⟩
  | cons top rest =>
    rw [List.forall_mem_cons] at hframes
    obtain ⟨⟨hvoid, htop⟩, hrest⟩ := hframes
    have hbelow : Proper { frames := rest, done := done } := ⟨hdone, hrest⟩
    exact hbelow.put fun m hm => Frame.proper_of_mem_preorder_close hvoid htop hm

lemma Proper.popMany {b : Builder} (h : b.Proper) (n : ℕ) : (b.popMany n).Proper := by
  induction n generalizing b with
  | zero => exact h
  | succ n ih => exact ih h.pop

lemma Proper.step {b : Builder} (h : b.Proper) (location : Location) (e : Event) :
    (b.step location e).Proper := by
  cases e with
  | start tag attributes =>
    rw [Builder.step]
    split_ifs with hvoid
    · exact h.put fun m hm => Node.proper_of_mem_preorder_empty hm
    · exact ⟨h.done, List.forall_mem_cons.2
        ⟨⟨hvoid, ⟨List.isChain_nil, by simp⟩⟩, h.frames⟩⟩
  | single tag attributes => exact h.put fun m hm => Node.proper_of_mem_preorder_empty hm
  | stop tag => exact h.popMany _
  | data text => exact h.modify fun ns hns => hns.addText location text

lemma proper_run (events : List (Location × Event)) : (run {} events).Proper := by
  induction events using List.reverseRecOn with
  | nil => exact ⟨⟨List.isChain_nil, by simp [run]⟩, by simp [run]⟩
  | append_singleton events e ih =>
    rw [run_append]
    exact ih.step e.1 e.2

end Builder

/-- What stands at a place of a document made by events is empty if it is a void element, and has
no two neighbouring texts. -/
lemma proper_of_mem_walk {href : String} {events : List (Location × Event)} {p : Place}
    (hp : p ∈ (Place.root (Document.ofEvents href events)).walk) :
    p.item.children.IsChain Node.Apart ∧
      ∀ t, p.item.tag? = some t → isVoid t → p.item.children = [] := by
  have hforest : ProperForest ((Builder.run {} events).popMany
      (Builder.run {} events).frames.length).done :=
    ((Builder.proper_run events).popMany _).done
  have hitem : p.item ∈ (Place.root (Document.ofEvents href events)).walk.map (·.item) :=
    List.mem_map_of_mem hp
  rw [Place.map_item_walk, List.mem_cons, List.mem_map] at hitem
  rcases hitem with hroot | ⟨n, hn, hitem⟩
  · rw [hroot]
    exact ⟨hforest.reverse, fun t ht => by simp [Place.root, Item.tag?] at ht⟩
  · obtain ⟨c, hc, hn⟩ := List.mem_flatMap.1 hn
    have hproper : n.Proper := hforest.proper c (List.mem_reverse.1 hc) n hn
    rw [← hitem]
    refine ⟨hproper.apart, fun t ht hvoid => ?_⟩
    cases n with
    | text => rfl
    | element l t' as cs =>
      cases ht
      exact hproper.void l t as cs rfl hvoid

/-! ### The document as a whole -/

lemma Node.location_bare (n : Node) : n.bare.location = n.location := by cases n <;> rfl

lemma Node.value_bare (n : Node) : n.bare.value = n.value := by cases n <;> rfl

/-- An end tag that closes nothing leaves the builder as it is. -/
lemma Builder.run_stray (events : List (Location × Event)) (location : Location) {tag : String}
    (h : tag ∉ (Journal.ofEvents events).openTags) :
    run {} (events ++ [(location, .stop tag)]) = run {} events := by
  rw [run_append, step, depthOf_eq, (keeps_run events).tags_eq, if_neg h]
  rfl

lemma join_filterMap_text? (ns : List Node) :
    String.join ((ns.map Item.node).filterMap Item.text?) = String.join (ns.map Node.value) := by
  induction ns with
  | nil => rfl
  | cons n ns ih =>
    rw [List.map_cons, List.map_cons, String.join_cons, ← ih]
    cases n with
    | text l v =>
      rw [List.filterMap_cons_some (show Item.text? (.node (.text l v)) = some v from rfl),
        String.join_cons]
      rfl
    | element l t as cs =>
      rw [List.filterMap_cons_none (show Item.text? (.node (.element l t as cs)) = none from rfl)]
      exact String.empty_append.symm

/-- **Any events give a tree in the order in which they make its nodes.** Every place but the root
stands once below its parent; void elements are empty and neighbours are never both texts; an end
tag of an element that is not open changes nothing; the walk visits the nodes in the order in which
the events make them, so its locations are ordered if those of the events are; and the texts of the
walk hold the character data of the events. -/
theorem ofEvents_walk_in_order (href : String) (events : List (Location × Event)) :
    let root := Place.root (Document.ofEvents href events)
    (root.walk.Nodup ∧ ∀ p ∈ root.walk, p ≠ root → ∃ parent ∈ root.walk,
      p.ancestors.head? = some parent ∧ p ∈ parent.children ∧ parent.children.Nodup) ∧
    (∀ p ∈ root.walk, p.item.children.IsChain (fun m n => ¬(m.isText ∧ n.isText)) ∧
      ∀ tag, p.item.tag? = some tag → isVoid tag → p.item.children = []) ∧
    (∀ location tag, tag ∉ (Journal.ofEvents events).openTags →
      Builder.run {} (events ++ [(location, .stop tag)]) = Builder.run {} events) ∧
    (∃ nodes : List Node, root.walk.map (·.item) = root.item :: nodes.map .node ∧
      nodes.map Node.bare = created events) ∧
    ((events.map (·.1)).Pairwise Location.NotAfter →
      (root.walk.tail.map (·.location)).Pairwise Location.NotAfter) ∧
    ((root.location :: events.map (·.1)).Pairwise Location.NotAfter →
      (root.walk.map (·.location)).Pairwise Location.NotAfter) ∧
    String.join (root.walk.filterMap (·.item.text?)) =
      String.join (events.map (·.2.dataText)) := by
  intro root
  set nodes := root.item.children.flatMap Node.preorder with hnodes
  have hitems : root.walk.map (·.item) = root.item :: nodes.map .node := root.map_item_walk
  have hmade : nodes.map Node.bare = created events := outline_ofEvents href events
  have hlocations : (nodes.map Node.location).Sublist (events.map (·.1)) := by
    have hsub := created_locations_sublist events
    rw [← hmade, List.map_map] at hsub
    simpa only [Function.comp_def, Node.location_bare] using hsub
  have hwalk : root.walk.map (·.location) = root.location :: nodes.map Node.location := by
    have h := congrArg (List.map Item.location) hitems
    rw [List.map_map, List.map_cons, List.map_map] at h
    exact h
  have htexts : root.walk.filterMap (·.item.text?) = (nodes.map .node).filterMap Item.text? := by
    have h := congrArg (List.filterMap Item.text?) hitems
    rw [List.filterMap_map, List.filterMap_cons_none (show root.item.text? = none from rfl)] at h
    exact h
  refine ⟨⟨root.nodup_walk, fun p hp hne => Place.exists_parent_of_mem_walk hp hne⟩,
    fun p hp => proper_of_mem_walk hp, fun location tag h => Builder.run_stray events location h,
    ⟨nodes, hitems, hmade⟩, fun h => ?_, fun h => ?_, ?_⟩
  · rw [List.map_tail, hwalk]
    exact h.sublist hlocations
  · rw [hwalk]
    exact h.sublist (hlocations.cons_cons _)
  · rw [htexts, join_filterMap_text?, ← created_texts, ← hmade, List.map_map]
    simp only [Function.comp_def, Node.value_bare]

end ComponentLint.Markup
