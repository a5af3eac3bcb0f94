import ComponentLint.Proofs.TreeBuilding

/-!
Trees from their own events.

A forest is written as events: the start of an element, the events of its children, and its end. A
void element is its start alone and a text is character data. When the end of an element comes, all
that was opened after it has been closed again, so it closes that element and no other of the same
tag, and the builder stands where it stood before, with the element behind it. So building gives the
forest back, if it is one that can be built at all.
-/

namespace ComponentLint.Markup

namespace Node

mutual

/-- The events of a tree from left to right, each where its node starts. -/
def events : Node → List (Location × Event)
  | text l v => [(l, .data v)]
  | element l t as cs =>
    if isVoid t then [(l, .start t as)] else (l, .start t as) :: (eventsAll cs ++ [(l, .stop t)])

def eventsAll : List Node → List (Location × Event)
  | [] => []
  | n :: ns => n.events ++ eventsAll ns

end

end Node

/-- The same event at the same location; of an end tag the location does not matter. -/
inductive SameEvent : Location × Event → Location × Event → Prop
  | same (e : Location × Event) : SameEvent e e
  | stop (l l' : Location) (tag : String) : SameEvent (l, .stop tag) (l', .stop tag)

namespace Builder

lemma run_cons (b : Builder) (e : Location × Event) (events : List (Location × Event)) :
    b.run (e :: events) = (b.step e.1 e.2).run events :=
  rfl

lemma run_append_events (b : Builder) (es es' : List (Location × Event)) :
    b.run (es ++ es') = (b.run es).run es' :=
  List.foldl_append

lemma run_sameEvents {es es' : List (Location × Event)} (h : List.Forall₂ SameEvent es es')
    (b : Builder) : b.run es = b.run es' := by
  induction h generalizing b with
  | nil => rfl
  | @cons e e' es es' he _ ih =>
    rw [run_cons, run_cons, ih]
    cases he <;> rfl

lemma modify_append (b : Builder) (ms ns : List Node) :
    (b.modify (ms ++ ·)).modify (ns ++ ·) = b.modify (ns ++ ms ++ ·) := by
  obtain ⟨frames, done⟩ := b
  cases frames <;> simp [modify]

/-- An end tag closes the element that was opened last, if it has that tag. -/
lemma step_stop_top (b : Builder) (f : Frame) (location : Location) :
    step { b with frames := f :: b.frames } location (.stop f.tag) = b.put f.close := by
  have hdepth : depthOf f.tag (f :: b.frames) = 1 := by
    simp [depthOf, List.findIdx?_cons]
  rw [step, hdepth]
  rfl

/-- A text is not merged where no text is right before it. -/
def Fits (b : Builder) (ns : List Node) : Prop :=
  ∀ m ∈ b.current.head?, ∀ n ∈ ns.head?, Node.Apart m n

lemma Fits.step_data {b : Builder} {l : Location} {v : String} {ns : List Node}
    (h : b.Fits (.text l v :: ns)) : b.step l (.data v) = b.put (.text l v) := by
  refine modify_congr (addText_of_not_text ?_)
  rintro ⟨l', v', rest, hcurrent⟩
  exact h (.text l' v') (by simp [hcurrent]) (.text l v) (by simp) ⟨rfl, rfl⟩

lemma Fits.put {b : Builder} {n : Node} {ns : List Node}
    (h : (n :: ns).IsChain Node.Apart) : (b.put n).Fits ns := by
  intro m hm
  rw [Builder.put, current_modify] at hm
  obtain rfl : n = m := by simpa using hm
  exact (List.isChain_cons.1 h).1

mutual

/-- The events of a tree put it behind the current position. -/
lemma run_events (n : Node) (b : Builder) (hproper : ∀ m ∈ n.preorder, m.Proper)
    (hfits : b.Fits [n]) : b.run n.events = b.put n := by
  match n with
  | .text l v =>
    rw [Node.events, run_cons]
    exact hfits.step_data
  | .element l t as cs =>
    rw [Node.preorder_eq, List.forall_mem_cons] at hproper
    obtain ⟨hself, hbelow⟩ := hproper
    rw [Node.events]
    split_ifs with hvoid
    · rw [hself.void l t as cs rfl hvoid, run_cons, step, if_pos hvoid]
      rfl
    · have hforest : ProperForest cs :=
        ⟨hself.apart, fun c hc m hm => hbelow m (List.mem_flatMap.2 ⟨c, hc, hm⟩)⟩
      have hchildren := run_eventsAll cs { b with frames := ⟨l, t, as, []⟩ :: b.frames } hforest
        (by simp [Fits, current])
      have hclose := step_stop_top b ⟨l, t, as, cs.reverse⟩ l
      rw [run_cons, run_append_events, step, if_neg hvoid, hchildren, run_cons, modify]
      simp only [List.append_nil]
      rw [hclose, Frame.close, List.reverse_reverse]
      rfl

/-- The events of a forest put its trees behind the current position, one after the other. -/
lemma run_eventsAll (ns : List Node) (b : Builder) (hproper : ProperForest ns)
    (hfits : b.Fits ns) : b.run (Node.eventsAll ns) = b.modify (ns.reverse ++ ·) := by
  match ns with
  | [] => exact b.modify_id.symm
  | n :: ns =>
    obtain ⟨hapart, hall⟩ := hproper
    rw [List.forall_mem_cons] at hall
    have hfirst := run_events n b hall.1 (by simpa [Fits] using hfits)
    have hrest := run_eventsAll ns (b.put n) ⟨(List.isChain_cons.1 hapart).2, hall.2⟩ (.put hapart)
    rw [Node.eventsAll, run_append_events, hfirst, hrest, put]
    exact (b.modify_append [n] ns.reverse).trans (by rw [List.reverse_cons])

end

end Builder

/-- **Building undoes the writing of a forest as events.** If void elements are empty and neighbours
are never both texts, the document of the events of a forest has that forest for its children,
wherever the end tags are said to stand. -/
theorem ofEvents_eventsAll (href : String) (ns : List Node) (es : List (Location × Event))
    (hproper : ProperForest ns) (hevents : List.Forall₂ SameEvent es (Node.eventsAll ns)) :
    Document.ofEvents href es = ⟨href, ns⟩ := by
  have hrun : Builder.run {} es = { frames := [], done := ns.reverse } := by
    rw [Builder.run_sameEvents hevents,
      Builder.run_eventsAll ns {} hproper (by simp [Builder.Fits, Builder.current])]
    simp [Builder.modify]
  rw [Document.ofEvents, hrun, Builder.finish]
  exact congrArg (Document.mk href) (List.reverse_reverse ns)

/-! ### A forest with equal tags inside each other -/

@[simp] lemma Node.proper_text (l : Location) (v : String) : (Node.text l v).Proper :=
  ⟨by simp, List.isChain_nil⟩

@[simp] lemma Node.proper_element {l : Location} {t : String} {as : List Attribute}
    {cs : List Node} :
    (Node.element l t as cs).Proper ↔ (isVoid t → cs = []) ∧ cs.IsChain Node.Apart := by
  refine ⟨fun h => ⟨h.void l t as cs rfl, h.apart⟩, fun h => ⟨?_, h.2⟩⟩
  rintro _ _ _ _ ⟨⟩
  exact h.1

/-- An element inside one of the same tag, with a void element and texts between. -/
def quotation : List Node :=
  [.element ⟨1, 0⟩ "div" [⟨"class", some "quote"⟩, ⟨"hidden", none⟩]
     [.text ⟨1, 25⟩ "One",
      .element ⟨1, 28⟩ "div" [] [.element ⟨1, 33⟩ "br" [] [], .text ⟨1, 37⟩ "two"],
      .text ⟨1, 46⟩ "three"],
   .text ⟨1, 57⟩ "\n",
   .element ⟨2, 0⟩ "div" [] []]

/-- The events of the quotation, with the end tags where they stand. -/
def quotationEvents : List (Location × Event) :=
  [(⟨1, 0⟩, .start "div" [⟨"class", some "quote"⟩, ⟨"hidden", none⟩]),
   (⟨1, 25⟩, .data "One"),
   (⟨1, 28⟩, .start "div" []), (⟨1, 33⟩, .start "br" []), (⟨1, 37⟩, .data "two"),
   (⟨1, 40⟩, .stop "div"),
   (⟨1, 46⟩, .data "three"),
   (⟨1, 51⟩, .stop "div"),
   (⟨1, 57⟩, .data "\n"),
   (⟨2, 0⟩, .start "div" []), (⟨2, 5⟩, .stop "div")]

theorem ofEvents_quotationEvents :
    ProperForest quotation ∧ List.Forall₂ SameEvent quotationEvents (Node.eventsAll quotation) ∧
    Document.ofEvents "quotation.html" quotationEvents = ⟨"quotation.html", quotation⟩ := by
  have hproper : ProperForest quotation := by
    refine ⟨by simp [quotation, Node.Apart, Node.isText], ?_⟩
    simp [quotation, Node.preorder, Node.preorderAll, Node.Apart, Node.isText, isVoid, voidTags]
  have hevents : List.Forall₂ SameEvent quotationEvents (Node.eventsAll quotation) := by
    simp [quotation, quotationEvents, Node.eventsAll, Node.events, isVoid, voidTags,
      SameEvent.same, SameEvent.stop]
  exact ⟨hproper, hevents, ofEvents_eventsAll "quotation.html" quotation _ hproper hevents⟩

end ComponentLint.Markup
