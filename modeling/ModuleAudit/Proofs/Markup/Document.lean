import ModuleAudit.Proofs.Markup.Namespace

/-!
# Documents

`IsDocument` tells which texts spell a tree of elements: all elements are in one namespace or in none;
characters that have a meaning of their own are written as references; there may be white space and comments
between the parts.

* `Prolog.read_front`, `checkRest_gap`: what stands around the outermost element is passed over;
* `IsDocument.parse`: a document is read as what it spells, but for the blanks around texts;
* `unclosed_unread`: a document is not read where the tag is missing that closes it.
-/

namespace ModuleAudit.Markup

variable {n : Naming} {tag attr rest : List Char}

/-! ## Around the outermost element -/

/-- White space around the outermost element. -/
def IsSpaced (c : Char) : Prop := isSpace c = true

/-- The start of a document. -/
def xmlDeclaration : List Char := "<?xml version=\"1.0\" encoding=\"UTF-8\"?>".toList

/-- What stands before the outermost element: a gap, which may follow the declaration of the document. -/
inductive IsFront : List Char → Prop
  | gap {g : List Char} (h : IsGap IsSpaced g) : IsFront g
  | declared {g : List Char} (h : IsGap IsSpaced g) : IsFront (xmlDeclaration ++ g)

theorem scanWord_space {c : Char} (h : isSpace c = true) (rest : List Char) :
    scanWord (c :: rest) = .ok (.space, skipSpace rest) := by
  rcases eq_of_isSpace h with rfl | rfl | rfl | rfl <;> rfl

theorem scanWord_comment {body : List Char} (h : IsComment body) (rest : List Char) :
    scanWord ('<' :: '!' :: '-' :: '-' :: body ++ '-' :: '-' :: '>' :: rest) = .ok (.comment, rest) := by
  simp [scanWord, scanAngle, scanDeclaration, scanComment, expectChar, scanCommentBody_append h, bind,
    Except.bind, pure, Except.pure]

theorem scanWord_element {c : Char} (start : isNameStart c = true) (rest : List Char) :
    scanWord ('<' :: c :: rest) = .ok (.element, '<' :: c :: rest) := by
  have keyword : (isKeywordChar c || decide (c.toNat ≥ 0x80)) = true := by
    rw [isNameStart] at start
    split at start
    · rw [isKeywordChar, start, Bool.true_or]
    next high =>
      have : c.toNat ≥ 0x80 := UInt32.le_iff_toNat_le.1 (UInt32.not_lt.1 high)
      rw [decide_eq_true this, Bool.or_true]
  rw [scanWord, scanAngle]
  · rw [if_pos keyword]
  all_goals
    rintro rfl
    exact absurd start (by decide)

namespace Prolog

variable {p : Prolog} {w : Word} {fuel : Nat} {x c : Char} {s rest : List Char} {b b' : Budget}

/-- The document type or the outermost element may come next. -/
def IsOuter (p : Prolog) : Prop := p.expecting = .document ∨ p.expecting = .doctypeOrElement

theorem read_word {expecting : Expecting} (scanned : scanWord (x :: s) = .ok (w, rest))
    (next : p.expecting.next w = some (expecting, .nothing)) :
    read (fuel + 1) p (x :: s) b =
      read fuel { p with expecting } rest { b with rest, counted := none } := by
  rw [read, scanned]
  · dsimp only
    rw [next]
    rfl
  · exact List.cons_ne_nil _ _

theorem read_element (outer : p.IsOuter) (start : isNameStart c = true) (rest : List Char) :
    read (fuel + 1) p ('<' :: c :: rest) b = .ok ((p.declarations, '<' :: c :: rest), b) := by
  rw [read, scanWord_element start]
  · rcases outer with h | h <;> rw [h] <;> rfl
  · exact List.cons_ne_nil _ _

/-- A prolog without declarations is read up to the outermost element. -/
theorem read_gap {g : List Char} (gap : IsGap IsSpaced g) (start : isNameStart c = true)
    (rest : List Char) :
    (∀ p fuel b, IsOuter p → (g ++ '<' :: c :: rest).length < fuel →
      ∃ b', read fuel p (g ++ '<' :: c :: rest) b = .ok ((p.declarations, '<' :: c :: rest), b')) ∧
    ∀ p fuel b, IsOuter p → (g ++ '<' :: c :: rest).length < fuel →
      ∃ b', read fuel p (skipSpace (g ++ '<' :: c :: rest)) b =
        .ok ((p.declarations, '<' :: c :: rest), b') := by
  induction gap with
  | nil =>
    have here : ∀ p fuel b, IsOuter p → ('<' :: c :: rest).length < fuel →
        ∃ b', read fuel p ('<' :: c :: rest) b = .ok ((p.declarations, '<' :: c :: rest), b') := by
      intro p fuel b outer enough
      obtain ⟨fuel, rfl⟩ := Nat.exists_eq_succ_of_ne_zero (Nat.ne_zero_of_lt enough)
      exact ⟨b, read_element outer start rest⟩
    refine ⟨here, ?_⟩
    rw [List.nil_append, skipSpace_cons rfl]
    exact here
  | @blank d g h gap ih =>
    refine ⟨fun p fuel b outer enough => ?_, fun p fuel b outer enough => ?_⟩
    · obtain ⟨fuel, rfl⟩ := Nat.exists_eq_succ_of_ne_zero (Nat.ne_zero_of_lt enough)
      have next : p.expecting.next .space = some (.doctypeOrElement, .nothing) := by
        rcases outer with h | h <;> rw [h] <;> rfl
      rw [List.cons_append, read_word (scanWord_space h _) next]
      exact ih.2 _ _ _ (.inr rfl) (Nat.lt_of_succ_lt_succ enough)
    · have skipped : skipSpace (d :: g ++ '<' :: c :: rest) = skipSpace (g ++ '<' :: c :: rest) :=
        List.dropWhile_cons_of_pos h
      rw [skipped]
      exact ih.2 p fuel b outer (Nat.lt_of_succ_lt (by simpa using enough))
  | @comment body g h gap ih =>
    have here : ∀ p fuel b, IsOuter p →
        ('<' :: '!' :: '-' :: '-' :: body ++ '-' :: '-' :: '>' :: g ++ '<' :: c :: rest).length < fuel →
        ∃ b', read fuel p
            ('<' :: '!' :: '-' :: '-' :: body ++ '-' :: '-' :: '>' :: g ++ '<' :: c :: rest) b =
          .ok ((p.declarations, '<' :: c :: rest), b') := by
      intro p fuel b outer enough
      obtain ⟨fuel, rfl⟩ := Nat.exists_eq_succ_of_ne_zero (Nat.ne_zero_of_lt enough)
      have scanned := scanWord_comment h (g ++ '<' :: c :: rest)
      have next : p.expecting.next .comment = some (.doctypeOrElement, .nothing) := by
        rcases outer with h | h <;> rw [h] <;> rfl
      simp only [List.append_assoc, List.cons_append] at scanned enough ⊢
      rw [read_word scanned next]
      refine ih.1 _ _ _ (.inr rfl) ?_
      simp only [List.length_append, List.length_cons] at enough ⊢
      omega
    refine ⟨here, ?_⟩
    rw [List.cons_append, List.cons_append, skipSpace_cons rfl]
    exact here

theorem readDeclaration_default (rest : List Char) :
    readDeclaration (xmlDeclaration ++ rest) rest = .ok false := by
  let settings : List Char := " version=\"1.0\" encoding=\"UTF-8\"".toList
  have behind : (xmlDeclaration ++ rest).drop "<?xml".length = settings ++ ("?>".toList ++ rest) := rfl
  have length : (settings ++ ("?>".toList ++ rest)).length - rest.length - "?>".length =
      settings.length := by
    rw [List.length_append, List.length_append]
    change settings.length + (2 + rest.length) - rest.length - 2 = settings.length
    omega
  have alone : readSettings settings = .ok false := rfl
  rw [readDeclaration, behind, length, List.take_left, alone]

/-- The declaration of a document is read, and declares nothing. -/
theorem read_declared (rest : List Char) : read (fuel + 1) {} (xmlDeclaration ++ rest) b =
    read fuel { expecting := .doctypeOrElement } rest { b with rest, counted := none } := by
  have scanned : scanWord (xmlDeclaration ++ rest) = .ok (.xmlDeclaration, rest) := rfl
  have declared :
      declare {} (xmlDeclaration ++ rest) rest .xmlDeclaration { b with rest, counted := none } =
      .ok ({}, { b with rest, counted := none }) := by
    rw [declare, Reading.bind_ok (Reading.lift_ok (readDeclaration_default rest) _)]
    rfl
  rw [read, scanned]
  · change (Reading.advance rest >>= fun _ =>
      Reading.placing _ (declare {} _ rest .xmlDeclaration) >>= _) b = _
    rw [Reading.bind_ok (Reading.advance_ok ..), Reading.bind_ok (Reading.placing_ok declared _)]
  · exact List.cons_ne_nil _ _

theorem read_front {front : List Char} (h : IsFront front) (start : isNameStart c = true)
    (enough : (front ++ '<' :: c :: rest).length < fuel) :
    ∃ b', read fuel {} (front ++ '<' :: c :: rest) b = .ok (({}, '<' :: c :: rest), b') := by
  cases h with
  | gap h => exact (read_gap h start rest).1 {} fuel b (.inl rfl) enough
  | @declared g h =>
    obtain ⟨fuel, rfl⟩ := Nat.exists_eq_succ_of_ne_zero (Nat.ne_zero_of_lt enough)
    rw [List.append_assoc, read_declared]
    refine (read_gap h start rest).1 _ fuel _ (.inr rfl) ?_
    rw [List.append_assoc, List.length_append] at enough
    have : 0 < xmlDeclaration.length := by decide
    omega

end Prolog

/-- Nothing but a gap follows the outermost element. -/
theorem checkRest_gap {g : List Char} (gap : IsGap IsSpaced g) :
    ∀ fuel, checkRest fuel g = .ok () ∧ checkRest fuel (skipSpace g) = .ok () := by
  induction gap with
  | nil => exact fun fuel => by cases fuel <;> exact ⟨rfl, rfl⟩
  | @blank d g h gap ih =>
    intro fuel
    have skipped : skipSpace (d :: g) = skipSpace g := List.dropWhile_cons_of_pos h
    refine ⟨?_, skipped ▸ (ih fuel).2⟩
    cases fuel with
    | zero => rfl
    | succ fuel =>
      rw [checkRest, scanWord_space h]
      · exact (ih fuel).2
      · exact List.cons_ne_nil _ _
  | @comment body g h gap ih =>
    intro fuel
    have here : checkRest fuel ('<' :: '!' :: '-' :: '-' :: body ++ '-' :: '-' :: '>' :: g) = .ok () := by
      cases fuel with
      | zero => rfl
      | succ fuel =>
        have scanned := scanWord_comment h g
        rw [List.cons_append] at scanned ⊢
        rw [checkRest, scanned]
        · exact (ih fuel).1
        · exact List.cons_ne_nil _ _
    exact ⟨here, here⟩

/-! ### The first characters -/

theorem isSpaced_or_angle {front : List Char} (h : IsFront front) (rest : List Char) :
    ∀ c ∈ (front ++ '<' :: rest).head?, isSpace c = true ∨ c = '<' := by
  have ofGap {g : List Char} (h : IsGap IsSpaced g) :
      ∀ c ∈ (g ++ '<' :: rest).head?, isSpace c = true ∨ c = '<' := by
    cases h with
    | nil => exact fun c hc => .inr (Option.some.inj hc).symm
    | blank h _ => exact fun c hc => .inl (Option.some.inj hc ▸ h)
    | comment _ _ => exact fun c hc => .inr (Option.some.inj hc).symm
  cases h with
  | gap h => exact ofGap h
  | declared h => exact fun c hc => .inr (Option.some.inj hc).symm

theorem not_mem_gap {g : List Char} (h : IsGap IsSpaced g) : '\x00' ∉ g := by
  induction h with
  | nil => exact List.not_mem_nil
  | blank h _ ih =>
    rw [List.mem_cons, not_or]
    exact ⟨(by rintro rfl; cases h), ih⟩
  | @comment body g h _ ih =>
    have notBody : '\x00' ∉ body := fun hc => absurd (h.chars _ hc) (by decide)
    simp [ih, notBody]

theorem not_mem_front {front : List Char} (h : IsFront front) : '\x00' ∉ front := by
  cases h with
  | gap h => exact not_mem_gap h
  | declared h =>
    rw [List.mem_append, not_or]
    exact ⟨by decide, not_mem_gap h⟩

theorem skipMark_eq {document : List Char} (h : ∀ c ∈ document.head?, isSpace c = true ∨ c = '<') :
    skipMark document = .ok document := by
  rw [skipMark.eq_def]
  split
  · rcases h _ rfl with h | h <;> cases h
  · rcases h _ rfl with h | h <;> cases h
  · rfl

theorem ofDocument_eq {document : List Char} (h : '\x00' ∉ document.take 2) :
    Units.ofDocument document = ⟨document, false⟩ := by
  rw [Units.ofDocument.eq_def]
  split
  · simp at h
  · simp at h
  · rfl

/-! ## Documents -/

/-- A text spells an element with what it holds. -/
inductive IsDocument (n : Naming) : List Char → Element → Prop
  | mk {front attr inside text after tag : List Char} {children : List Element} (name : IsName tag)
      (before : IsFront front) (declares : n.Declares attr)
      (holds : Holds n.qualifier? inside text children) (behind : IsGap IsSpaced after) :
      IsDocument n (front ++ '<' :: ((QualifiedName.mk n.qualifier? tag).written ++ (attr ++ '>' ::
        (inside ++ (closingTag n.qualifier? tag ++ after))))) (.mk tag text children)

/-- The outermost element is read to its end. -/
theorem readOutermost_eq (proper : n.IsProper) (name : IsName tag) (declares : n.Declares attr)
    {inside after : List Char} {es : List Event} (reaches : Reaches n.qualifier? inside es) (b : Budget) :
    ∃ b', readOutermost {} ('<' :: ((QualifiedName.mk n.qualifier? tag).written ++ (attr ++ '>' ::
      (inside ++ (closingTag n.qualifier? tag ++ after))))) b =
        .ok ((.opening tag :: es ++ [.closing], after), b') := by
  have opened := leads_outermost proper name declares (inside ++ (closingTag n.qualifier? tag ++ after))
  have filled :=
    reaches (.outermost n tag) ('/' :: ((QualifiedName.mk n.qualifier? tag).written ++ ['>'] ++ after))
    (List.cons_ne_nil _ _) (n.inUse proper)
  obtain ⟨fuel, b', enough, same⟩ := opened.trans filled _ b (Nat.lt_succ_self _)
  obtain ⟨fuel, rfl⟩ := Nat.exists_eq_succ_of_ne_zero (Nat.ne_zero_of_lt enough)
  let closed : Course :=
    { (((Course.outermost n tag).pushAll es).push .closing) with scope := Scope.initial, stack := [] }
  have scanned := scanContent_closing ((n.inUse proper).isProper name) after
  have read (s : List Char) (b : Budget) : readPart plainSetup s ((Course.outermost n tag).pushAll es)
      (.closing (QualifiedName.mk n.qualifier? tag).written
        ((QualifiedName.mk n.qualifier? tag).written ++ '>' :: after)) after b =
          .ok ((closed, after), b) := by
    rw [readPart, Course.stack_pushAll, Course.outermost]
    dsimp only
    rw [if_pos (by exact beq_self_eq_true _)]
    rfl
  have last := readContent_part (b := b') fuel scanned (by simp) (read _ _)
  rw [if_pos (show closed.stack.isEmpty = true from rfl)] at last
  have events : closed.events.reverse = .opening tag :: es ++ [.closing] := by
    simp [closed, Course.push, Course.pushAll, Course.outermost]
  refine ⟨{ b' with rest := after, counted := none }, ?_⟩
  rw [readOutermost]
  change (readContent plainSetup _ _ _ >>= fun r => pure (r.1.events.reverse, r.2)) b = _
  rw [closingTag] at same ⊢
  simp only [List.append_assoc, List.cons_append, List.nil_append] at same ⊢
  rw [Reading.bind_ok (same.trans last), events]
  rfl

/-- What is read of a document is what is read of its outermost element. -/
theorem parse_front {front main : List Char} {c : Char} (before : IsFront front)
    (start : isNameStart c = true) :
    ∃ b, Element.parse (front ++ '<' :: c :: main) =
      (readOutermost {} ('<' :: c :: main) b >>= fun r : (List Event × List Char) × Budget =>
        checkRest (r.1.2.length + 1) r.1.2 >>= fun _ => build [] r.1.1) := by
  have noZero : '\x00' ∉ (front ++ '<' :: c :: main).take 2 := by
    intro zero
    rw [List.take_append, List.mem_append] at zero
    rcases zero with zero | zero
    · exact not_mem_front before (List.mem_of_mem_take zero)
    have zero : '\x00' ∈ ('<' :: c :: main).take 2 := List.take_subset_take_left _ (Nat.sub_le ..) zero
    simp only [List.take_succ_cons, List.take_zero, List.mem_cons, List.not_mem_nil, or_false] at zero
    rcases zero with zero | rfl
    · cases zero
    · cases start
  let b₀ : Budget := { size := byteLength (front ++ '<' :: c :: main), rest := front ++ '<' :: c :: main }
  obtain ⟨b, prolog⟩ := @Prolog.read_front _ c main b₀ front before start (Nat.lt_succ_self _)
  have events : eventsOf (front ++ '<' :: c :: main) =
      (readOutermost {} ('<' :: c :: main) b >>= fun r : (List Event × List Char) × Budget =>
        checkRest (r.1.2.length + 1) r.1.2 >>= fun _ => pure r.1.1) := by
    rw [eventsOf, skipMark_eq (isSpaced_or_angle before _)]
    change ((_ : Reading (List Event × List Char)) b₀ >>= fun r : (List Event × List Char) × Budget =>
      checkRest (r.1.2.length + 1) r.1.2 >>= fun _ => pure r.1.1) = _
    rw [StateT.run, Reading.bind_ok prolog]
  refine ⟨b, ?_⟩
  rw [Element.parse, ofDocument_eq noZero]
  change (eventsOf (front ++ '<' :: c :: main) >>= build []) = _
  rw [events, bind_assoc]
  simp only [bind_assoc, pure_bind]

/-- A document is read as the elements that it spells, but for the blanks around texts. -/
theorem IsDocument.parse {document : List Char} {e : Element} (h : IsDocument n document e)
    (proper : n.IsProper) :
    ∃ e', Element.parse document = .ok e' ∧ e'.trimmed = e.trimmed := by
  cases h with
  | @mk front attr inside text after tag children name before declares holds behind =>
    obtain ⟨es, fills, reaches⟩ := holds.reaches
    obtain ⟨u, filled, built⟩ := fills tag []
    refine ⟨u.element, ?_, by rw [filled, Element.trimmed_mk]⟩
    obtain ⟨c, more, same, start, -⟩ := ((n.inUse proper).isProper name).written
    have outermost (b : Budget) :=
      @readOutermost_eq n tag attr proper name declares inside after es reaches b
    rw [same, List.cons_append] at outermost ⊢
    obtain ⟨b, parsed⟩ := parse_front before start
    obtain ⟨b', outermost⟩ := outermost b
    rw [parsed, outermost]
    change (checkRest (after.length + 1) after >>= fun _ => build [] (.opening tag :: es ++ [.closing])) = _
    rw [(checkRest_gap behind _).1, List.cons_append, build]
    exact built [.closing]

/-! ### Documents that end too early -/

theorem scanText_spaced {s : List Char} (h : ∀ c ∈ s, isSpace c = true) (done : List Char) :
    ∃ t rest, scanText true done s = .ok (.text t, rest) ∧ ∀ c ∈ rest, isSpace c = true := by
  induction s generalizing done with
  | nil => exact ⟨_, _, rfl, h⟩
  | cons c s ih =>
    have spaced := List.forall_mem_cons.1 h
    have notBracket : c ≠ ']' := by rintro rfl; cases spaced.1
    rw [scanText]
    · split
      · exact ⟨_, _, rfl, h⟩
      · exact ih spaced.2 _
    · rintro _ rfl
      exact absurd rfl notBracket

/-- White space is read as text. -/
theorem scanContent_spaced {x : Char} {s : List Char} (h : ∀ c ∈ x :: s, isSpace c = true) :
    ∃ part rest text, scanContent true (x :: s) = .ok (part, rest) ∧ (∀ c ∈ rest, isSpace c = true) ∧
      ∀ c s b, readPart plainSetup s c part rest b = .ok ((c.push (.text text), rest), b) := by
  have spaced := (List.forall_mem_cons.1 h).2
  have isText : x = ' ' ∨ x = '\t' → ∃ part rest text, scanContent true (x :: s) = .ok (part, rest) ∧
      (∀ c ∈ rest, isSpace c = true) ∧
      ∀ c s b, readPart plainSetup s c part rest b = .ok ((c.push (.text text), rest), b) := by
    intro hx
    obtain ⟨t, rest, scanned, spaced⟩ := scanText_spaced h []
    refine ⟨.text t, rest, String.ofList t, ?_, spaced, fun c s b => rfl⟩
    rcases hx with rfl | rfl <;> simp [scanContent, isChar, scanned]
  rcases eq_of_isSpace (List.forall_mem_cons.1 h).1 with rfl | rfl | rfl | rfl
  · exact isText (.inl rfl)
  · exact isText (.inr rfl)
  · exact ⟨.lineEnd, s, "\n", by simp [scanContent], spaced, fun _ _ _ => rfl⟩
  · cases s with
    | nil => exact ⟨.lineEnd, [], "\n", by simp [scanContent], spaced, fun _ _ _ => rfl⟩
    | cons d s =>
      by_cases newline : d = '\n'
      · subst newline
        exact ⟨.lineEnd, s, "\n", by simp [scanContent], (List.forall_mem_cons.1 spaced).2,
          fun _ _ _ => rfl⟩
      · exact ⟨.lineEnd, d :: s, "\n", by simp [scanContent, newline], spaced, fun _ _ _ => rfl⟩

/-- Where only white space is left, reading does not come to the end of the open elements. -/
theorem readContent_spaced {c : Course} {s : List Char} (isOpen : c.stack ≠ [])
    (h : ∀ c ∈ s, isSpace c = true)
    (fuel : Nat) (b : Budget) : ∃ e, readContent plainSetup fuel c s b = .error e := by
  induction fuel generalizing c s b with
  | zero => exact ⟨_, rfl⟩
  | succ fuel ih =>
    cases s with
    | nil => exact ⟨_, rfl⟩
    | cons x s =>
      by_cases alone : x :: s = ['\r']
      · rw [alone]
        exact ⟨_, rfl⟩
      · obtain ⟨part, rest, text, scanned, spaced, read⟩ := scanContent_spaced h
        have isOpen : (c.push (.text text)).stack ≠ [] := isOpen
        rw [readContent_part fuel scanned alone (read c _ _), if_neg (by simpa using isOpen)]
        exact ih isOpen spaced _

/-- A document whose outermost element is not closed is not read. -/
theorem unclosed_unread {front inside after : List Char} {es : List Event} (proper : n.IsProper)
    (name : IsName tag)
    (before : IsFront front) (declares : n.Declares attr) (passes : Passes n.qualifier? inside es)
    (spaced : ∀ c ∈ after, isSpace c = true) :
    ∃ e, Element.parse (front ++ '<' :: ((QualifiedName.mk n.qualifier? tag).written ++ (attr ++ '>' ::
      (inside ++ after)))) = .error e := by
  have opened := leads_outermost proper name declares (inside ++ after)
  have passed := passes (.outermost n tag) after (List.cons_ne_nil _ _) (n.inUse proper)
  have unread (b : Budget) : ∃ e, readOutermost {} ('<' :: ((QualifiedName.mk n.qualifier? tag).written ++
      (attr ++ '>' :: (inside ++ after)))) b = .error e := by
    obtain ⟨fuel, b', -, same⟩ := opened.trans passed _ b (Nat.lt_succ_self _)
    let c := (Course.outermost n tag).pushAll es
    obtain ⟨e, unread⟩ := readContent_spaced (c := c) (List.cons_ne_nil _ _) spaced fuel b'
    refine ⟨e, ?_⟩
    rw [readOutermost]
    change (readContent plainSetup _ _ _ >>= _) b = _
    exact Reading.bind_error (same.trans unread) _
  obtain ⟨c, more, same, start, -⟩ := ((n.inUse proper).isProper name).written
  rw [same, List.cons_append] at unread ⊢
  obtain ⟨b, parsed⟩ := parse_front before start
  obtain ⟨e, unread⟩ := unread b
  exact ⟨e, by rw [parsed, unread]; rfl⟩

end ModuleAudit.Markup
