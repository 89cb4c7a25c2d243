import ModuleAudit.Proofs.Markup.Text

/-!
# Reading elements

The content of elements that hold text, or other elements with nothing but blanks and comments between them
(`Holds`), is read as what it holds.

* `Passes`, `Reaches`: reading takes off what is written, whatever follows, or up to the next tag;
* `Adds`, `Fills`: the elements and the text that the events of a reading stand for;
* `Child.passes`: an element is read with the gap before it;
* `Holds.reaches`: what an element holds is read up to the tag that closes the element.
-/

namespace ModuleAudit.Markup

open ModuleAudit.Text (AllBlank)

variable {c : Course} {rest : List Char}

/-! ## Elements -/

/-- The tag that opens an element, with a prefix or without. -/
def openingTag (qualifier : Option (List Char)) (tag : List Char) : List Char :=
  '<' :: (QualifiedName.mk qualifier tag).written ++ ['>']

/-- The tag that closes an element. -/
def closingTag (qualifier : Option (List Char)) (tag : List Char) : List Char :=
  '<' :: '/' :: (QualifiedName.mk qualifier tag).written ++ ['>']

/-- An element inside another, with the gap before it and what stands between its tags. -/
structure Child where
  gap : List Char
  tag : List Char
  inside : List Char
  text : List Char
  children : List Element

/-- How a child is written. -/
def Child.written (qualifier : Option (List Char)) (c : Child) : List Char :=
  c.gap ++ (openingTag qualifier c.tag ++ (c.inside ++ closingTag qualifier c.tag))

/-- The element that a child is. -/
def Child.element (c : Child) : Element := .mk c.tag c.text c.children

/-- What stands between the tags of an element: its text, or its children with gaps between them. All
tags have one prefix, or none. -/
inductive Holds (qualifier : Option (List Char)) : (inside text : List Char) → List Element → Prop
  | text {before written text after : List Char} (hb : IsGap IsWhite before)
      (spelled : Spells IsPlain written text)
      (ha : IsGap IsWhite after) : Holds qualifier (before ++ (written ++ after)) text []
  | children {cs : List Child} {after : List Char} (names : ∀ c ∈ cs, IsName c.tag)
      (gaps : ∀ c ∈ cs, IsGap IsWhite c.gap) (inside : ∀ c ∈ cs, Holds qualifier c.inside c.text c.children)
      (ha : IsGap IsWhite after) :
      Holds qualifier (cs.flatMap (Child.written qualifier) ++ after) [] (cs.map Child.element)

/-- The prefix, if there is one, is in use. -/
def InUse (qualifier : Option (List Char)) (scope : Scope) : Prop :=
  ∀ p, qualifier = some p → IsName p ∧ (scope.lookup p).isSome

/-! ### Tags -/

variable {qualifier : Option (List Char)} {tag : List Char}

theorem InUse.isProper {scope : Scope} (h : InUse qualifier scope) (name : IsName tag) :
    (QualifiedName.mk qualifier tag).IsProper := ⟨fun p hp => (h p hp).1, name⟩

/-- Inside a tag what its attributes bring is in use. -/
theorem enter_ok {scope : Scope} {tag : Tag} {e : Scope.Entering} {b b' : Budget}
    (given : Scope.addGiven {} true [] tag [] { scope } tag.attributes b = .ok (e, b'))
    (prefixed : e.prefixed = []) (bound : ∀ p, tag.name.qualifier = some p → (e.scope.lookup p).isSome) :
    Scope.enter plainSetup.declarations plainSetup.isDocument plainSetup.within scope tag b =
      .ok (e.scope, b') := by
  change Scope.enter {} true [] scope tag b = _
  have complete :
      Scope.addDefaults (tag.attributes.map (·.name)) e (Declarations.rulesFor {} tag.name) = .ok e := rfl
  have checked : Scope.checkPrefixed e.scope [] e.prefixed.reverse = .ok () := by rw [prefixed]; rfl
  rw [Scope.enter, Reading.bind_ok given, Reading.bind_ok (Reading.lift_ok complete b'),
    Reading.bind_ok (Reading.lift_ok checked b')]
  cases hq : tag.name.qualifier with
  | none => rfl
  | some p =>
    obtain ⟨space, found⟩ := Option.isSome_iff_exists.1 (bound p hq)
    have resolved : Scope.resolve e.scope p = .ok space := by rw [Scope.resolve, found]
    dsimp only
    rw [Reading.bind_ok (Reading.lift_ok resolved b')]
    rfl

theorem enter_bare {scope : Scope} (h : InUse qualifier scope) (b : Budget) :
    Scope.enter plainSetup.declarations plainSetup.isDocument plainSetup.within scope
      ⟨⟨qualifier, tag⟩, [], false⟩ b = .ok (scope, b) :=
  enter_ok (e := { scope }) rfl rfl fun p hp => (h p hp).2

/-- The course after the tag that opens an element. -/
def Course.inside (c : Course) (qualifier : Option (List Char)) (tag : List Char) : Course :=
  { (c.pushAll [.opening tag]) with
    stack := ⟨(QualifiedName.mk qualifier tag).written, c.scope⟩ :: c.stack }

theorem leads_opening {c : Course} (h : InUse qualifier c.scope) (name : IsName tag) (rest : List Char) :
    Leads c (openingTag qualifier tag ++ rest) (c.inside qualifier tag) rest := by
  have scanned := scanContent_opening (h.isProper name) rest
  rw [openingTag, List.append_assoc, List.cons_append]
  refine .part scanned (by simp) (by simp; omega) (List.cons_ne_nil _ _) fun b => ⟨b, ?_⟩
  rw [readPart, Reading.bind_ok (enter_bare h b)]
  rfl

theorem leads_closing {c : Course} (h : InUse qualifier c.scope) (name : IsName tag) (isOpen : c.stack ≠ [])
    (es : List Event) (rest : List Char) :
    Leads ((c.inside qualifier tag).pushAll es) (closingTag qualifier tag ++ rest)
      (c.pushAll (.opening tag :: es ++ [.closing])) rest := by
  have scanned := scanContent_closing (h.isProper name) rest
  rw [closingTag, List.append_assoc, List.cons_append, List.cons_append]
  refine .part scanned (by simp) (by simp; omega) isOpen fun b => ⟨b, ?_⟩
  rw [readPart, Course.stack_pushAll, Course.inside]
  dsimp only
  rw [if_pos (by exact beq_self_eq_true _), Reading.pure_ok]
  simp [Course.pushAll, Course.push]

/-! ### Trees -/

namespace Unfinished

/-- There is no text yet but blanks. -/
def IsBare (u : Unfinished) : Prop := ∀ s ∈ u.text, AllBlank s.toList

/-- The children so far, with all texts cut. -/
def kids (u : Unfinished) : List Element := u.children.reverse.map .trimmed

variable {u : Unfinished}

theorem foldl_reverse (texts : List String) :
    texts.reverse.foldl (fun after s => s.toList ++ after) [] = texts.flatMap String.toList := by
  rw [List.foldl_reverse]
  induction texts with
  | nil => rfl
  | cons s texts ih => rw [List.foldr_cons, ih, List.flatMap_cons]

theorem trimmed_element (h : u.IsBare) : u.element.trimmed = .mk u.tag [] u.kids := by
  have blank : AllBlank (u.text.reverse.flatMap String.toList) := by
    intro c hc
    obtain ⟨s, hs, hc⟩ := List.mem_flatMap.1 hc
    exact h s (List.mem_reverse.1 hs) c hc
  rw [element, Element.trimmed_mk, ← List.reverse_reverse u.text, foldl_reverse, Text.trim_blank blank]
  rfl

end Unfinished

theorem build_texts (texts : List String) (u : Unfinished) (below : List Unfinished) (rest : List Event) :
    build (u :: below) (textEvents texts ++ rest) =
      build ((if u.children.isEmpty then { u with text := texts.reverse ++ u.text } else u) :: below)
        rest := by
  induction texts generalizing u with
  | nil => cases u.children.isEmpty <;> rfl
  | cons s texts ih =>
    rw [textEvents, List.map_cons, List.cons_append, build, addText, ← textEvents, ih]
    cases h : u.children.isEmpty <;> simp [h]

/-- The events add some children to an element that has no text. -/
def Adds (es : List Event) (children : List Element) : Prop :=
  ∀ (u : Unfinished) (below : List Unfinished), u.IsBare → ∃ u' : Unfinished, u'.IsBare ∧ u'.tag = u.tag ∧
    u'.kids = u.kids ++ children ∧ ∀ rest, build (u :: below) (es ++ rest) = build (u' :: below) rest

theorem Adds.nil : Adds [] [] := fun u _ bare => ⟨u, bare, rfl, (List.append_nil _).symm, fun _ => rfl⟩

theorem Adds.append {es es' : List Event} {children children' : List Element} (h : Adds es children)
    (h' : Adds es' children') : Adds (es ++ es') (children ++ children') := by
  intro u below bare
  obtain ⟨v, bare, tag, kids, same⟩ := h u below bare
  obtain ⟨w, bare, tag', kids', same'⟩ := h' v below bare
  refine ⟨w, bare, tag'.trans tag, by rw [kids', kids, List.append_assoc], fun rest => ?_⟩
  rw [List.append_assoc, same, same']

theorem adds_texts {texts : List String} (h : AllBlank (texts.flatMap String.toList)) :
    Adds (textEvents texts) [] := by
  intro u below bare
  have each : ∀ s ∈ texts, AllBlank s.toList := fun s hs c hc => h c (List.mem_flatMap.2 ⟨s, hs, hc⟩)
  refine ⟨_, ?_, ?_, ?_, fun rest => build_texts texts u below rest⟩
  · split
    · intro s hs
      rcases List.mem_append.1 hs with hs | hs
      · exact each s (List.mem_reverse.1 hs)
      · exact bare s hs
    · exact bare
  · split <;> rfl
  · rw [List.append_nil]
    split <;> rfl

/-- The events fill an element with some text and children. -/
def Fills (es : List Event) (text : List Char) (children : List Element) : Prop :=
  ∀ (tag : List Char) (below : List Unfinished), ∃ u : Unfinished,
    u.element.trimmed = .mk tag (Text.trim text) (children.map .trimmed) ∧
      ∀ rest, build (⟨tag, [], []⟩ :: below) (es ++ rest) = build (u :: below) rest

theorem Fills.adds {es : List Event} {text : List Char} {children : List Element}
    (h : Fills es text children) (tag : List Char) :
    Adds (.opening tag :: es ++ [.closing]) [(Element.mk tag text children).trimmed] := by
  intro u below bare
  obtain ⟨v, filled, same⟩ := h tag (u :: below)
  refine ⟨{ u with children := v.element :: u.children }, bare, rfl, ?_, fun rest => ?_⟩
  · simp [Unfinished.kids, filled, Element.trimmed_mk]
  · rw [List.append_assoc, List.cons_append, build, same]
    rfl

theorem Adds.fills {es : List Event} {children : List Element} (h : Adds es (children.map .trimmed)) :
    Fills es [] children := by
  intro tag below
  obtain ⟨u, bare, rfl, kids, same⟩ := h ⟨tag, [], []⟩ below fun s hs => absurd hs List.not_mem_nil
  exact ⟨u, by rw [Unfinished.trimmed_element bare, kids]; rfl, same⟩

theorem fills_texts {texts : List String} {x text y : List Char} (hx : AllBlank x) (hy : AllBlank y)
    (same : texts.flatMap String.toList = x ++ (text ++ y)) : Fills (textEvents texts) text [] := by
  intro tag below
  refine ⟨⟨tag, texts.reverse, []⟩, ?_, fun rest => ?_⟩
  · rw [Unfinished.element, Unfinished.foldl_reverse, same, Element.trimmed_mk, Text.trim_append hx hy]
    rfl
  · simpa using build_texts texts ⟨tag, [], []⟩ below rest

/-! ### What elements hold -/

/-- Reading takes off what is written, with some events, whatever follows. -/
def Passes (qualifier : Option (List Char)) (written : List Char) (es : List Event) : Prop :=
  ∀ c rest, c.stack ≠ [] → InUse qualifier c.scope → Leads c (written ++ rest) (c.pushAll es) rest

/-- Reading comes to the next tag, with some events. -/
def Reaches (qualifier : Option (List Char)) (inside : List Char) (es : List Event) : Prop :=
  ∀ c rest, c.stack ≠ [] → InUse qualifier c.scope →
    Leads c (inside ++ '<' :: rest) (c.pushAll es) ('<' :: rest)

theorem Passes.nil : Passes qualifier [] [] := fun c rest _ _ => Leads.refl c rest

theorem Passes.append {w w' : List Char} {es es' : List Event} (h : Passes qualifier w es)
    (h' : Passes qualifier w' es') : Passes qualifier (w ++ w') (es ++ es') := by
  intro c rest isOpen inUse
  have first := h c (w' ++ rest) isOpen inUse
  have second := h' (c.pushAll es) rest isOpen inUse
  rw [Course.pushAll_pushAll] at second
  rw [List.append_assoc]
  exact first.trans second

theorem Passes.reaches {w inside : List Char} {es es' : List Event} (h : Passes qualifier w es)
    (h' : Reaches qualifier inside es') : Reaches qualifier (w ++ inside) (es ++ es') := by
  intro c rest isOpen inUse
  have first := h c (inside ++ '<' :: rest) isOpen inUse
  have second := h' (c.pushAll es) rest isOpen inUse
  rw [Course.pushAll_pushAll] at second
  rw [List.append_assoc]
  exact first.trans second

theorem reaches_gap {gap : List Char} (h : IsGap IsWhite gap) :
    ∃ es, Adds es [] ∧ Reaches qualifier gap es := by
  obtain ⟨x, blank, texts, rfl, leads⟩ := reads_gap h
  exact ⟨textEvents texts, adds_texts blank, fun c rest isOpen _ => leads c rest isOpen⟩

theorem Reaches.passes {gap w : List Char} {es es' : List Event} (h : Reaches qualifier gap es)
    (h' : Passes qualifier ('<' :: w) es') : Passes qualifier (gap ++ '<' :: w) (es ++ es') := by
  intro c rest isOpen inUse
  have first := h c (w ++ rest) isOpen inUse
  have second := h' (c.pushAll es) rest isOpen inUse
  rw [Course.pushAll_pushAll] at second
  rw [List.append_assoc]
  exact first.trans second

/-- An element is read if what it holds is. -/
theorem passes_element {inside : List Char} {es : List Event} (name : IsName tag)
    (h : Reaches qualifier inside es) :
    Passes qualifier (openingTag qualifier tag ++ (inside ++ closingTag qualifier tag))
      (.opening tag :: es ++ [.closing]) := by
  intro c rest isOpen inUse
  have opened := leads_opening inUse name (inside ++ (closingTag qualifier tag ++ rest))
  have filled :=
    h (c.inside qualifier tag) ('/' :: (QualifiedName.mk qualifier tag).written ++ ['>'] ++ rest)
    (List.cons_ne_nil _ _) inUse
  have closed := leads_closing inUse name isOpen es rest
  rw [List.append_assoc, List.append_assoc]
  exact opened.trans (filled.trans closed)

/-- A child with the gap before it is read as the element that it is. -/
theorem Child.passes {c : Child} {es : List Event} (name : IsName c.tag) (gap : IsGap IsWhite c.gap)
    (fills : Fills es c.text c.children) (reaches : Reaches qualifier c.inside es) :
    ∃ es', Adds es' [c.element.trimmed] ∧ Passes qualifier (c.written qualifier) es' := by
  obtain ⟨before, addsNone, reachesTag⟩ : ∃ es, Adds es [] ∧ Reaches qualifier c.gap es := reaches_gap gap
  exact ⟨_, addsNone.append (fills.adds c.tag), reachesTag.passes (passes_element name reaches)⟩

/-- What an element holds is read as it is, up to the tag that closes the element. -/
theorem Holds.reaches {inside text : List Char} {children : List Element}
    (h : Holds qualifier inside text children) :
    ∃ es, Fills es text children ∧ Reaches qualifier inside es := by
  induction h with
  | text hb spelled ha =>
    obtain ⟨x, y, hx, hy, texts, same, leads⟩ := reads_text hb spelled ha
    exact ⟨textEvents texts, fills_texts hx hy same, fun c rest isOpen _ => leads c rest isOpen⟩
  | @children cs after names gaps inside ha ih =>
    obtain ⟨last, addsNone, reaches⟩ : ∃ es, Adds es [] ∧ Reaches qualifier after es := reaches_gap ha
    have row : ∃ es, Adds es ((cs.map Child.element).map .trimmed) ∧
        Passes qualifier (cs.flatMap (Child.written qualifier)) es := by
      clear inside
      induction cs with
      | nil => exact ⟨[], .nil, .nil⟩
      | cons c cs ihRow =>
        simp only [List.forall_mem_cons] at names gaps ih
        obtain ⟨es, fills, reaches⟩ := ih.1
        obtain ⟨first, addsOne, passes⟩ := Child.passes names.1 gaps.1 fills reaches
        obtain ⟨others, addsOthers, passesOthers⟩ := ihRow names.2 gaps.2 ih.2
        exact ⟨first ++ others, addsOne.append addsOthers, passes.append passesOthers⟩
    obtain ⟨es, addsAll, passes⟩ := row
    refine ⟨es ++ last, ?_, passes.reaches reaches⟩
    have := addsAll.append addsNone
    rw [List.append_nil] at this
    exact this.fills

end ModuleAudit.Markup
