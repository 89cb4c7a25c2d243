import Mathlib.Data.List.TakeDrop
import ModuleAudit.Markup.Content

/-!
# What scanners take off

The small parts of a document, as they may be written: names (`IsName`), texts with references to
predefined entities (`Spells`), and blanks with comments (`IsGap`). A scanner takes off what is written and
leaves what follows, provided that it cannot be taken for more of the same.
-/

namespace ModuleAudit.Markup

variable {c d : Char} {s rest : List Char}

theorem span_append {p : Char → Bool} (h : ∀ c ∈ s, p c = true) (stop : p d = false) :
    (s ++ d :: rest).span p = (s, d :: rest) := by
  have not : ¬ p d = true := Bool.eq_false_iff.1 stop
  rw [List.span_eq_takeWhile_dropWhile, List.takeWhile_append_of_pos h, List.dropWhile_append_of_pos h,
    List.takeWhile_cons_of_neg not, List.dropWhile_cons_of_neg not, List.append_nil]

theorem skipSpace_cons (h : isSpace c = false) (rest : List Char) : skipSpace (c :: rest) = c :: rest :=
  List.dropWhile_cons_of_neg (Bool.eq_false_iff.1 h)

theorem eq_of_isSpace (h : isSpace c = true) : c = ' ' ∨ c = '\t' ∨ c = '\n' ∨ c = '\r' := by
  simpa only [isSpace, Bool.or_eq_true, beq_iff_eq, or_assoc] using h

/-! ## Names -/

/-- A name without a colon. -/
inductive IsName : List Char → Prop
  | mk {c : Char} {more : List Char} (start : isNameStart c = true)
      (each : ∀ d ∈ c :: more, isNameChar d = true) : IsName (c :: more)

/-- A name whose prefix, if it has one, and local name are names. -/
structure QualifiedName.IsProper (n : QualifiedName) : Prop where
  qualifier : ∀ p, n.qualifier = some p → IsName p
  localName : IsName n.localName

variable {name : List Char} {n : QualifiedName}

theorem IsName.each (h : IsName name) : ∀ c ∈ name, isNameChar c = true := by cases h; assumption

theorem scanName_append (h : IsName name) (stop : isNameChar d = false) (rest : List Char) :
    scanName (name ++ d :: rest) = .ok (name, d :: rest) := by
  obtain ⟨start, each⟩ := h
  rw [List.cons_append, scanName, if_pos start,
    span_append (fun c hc => each c (List.mem_cons_of_mem _ hc)) stop]
  rfl

theorem scanQualifiedName_append (h : n.IsProper) (stop : isNameChar d = false) (colon : d ≠ ':')
    (rest : List Char) : scanQualifiedName (n.written ++ d :: rest) = .ok (n, d :: rest) := by
  obtain ⟨_ | p, localName⟩ := n
  · rw [QualifiedName.written, scanQualifiedName, scanName_append h.localName stop]
    simp only [bind, Except.bind, pure, Except.pure]
    split
    next e => exact absurd (List.cons.inj e).1 colon
    next => rfl
  · rw [QualifiedName.written, scanQualifiedName, List.append_assoc, List.cons_append,
      scanName_append (h.qualifier p rfl) rfl]
    simp only [bind, Except.bind, pure, Except.pure]
    rw [scanName_append h.localName stop]

theorem QualifiedName.IsProper.written (h : n.IsProper) : ∃ c more, n.written = c :: more ∧
    isNameStart c = true ∧ ∀ d ∈ more, (isNameChar d || d == ':') = true := by
  have raw {name : List Char} (h : IsName name) {c : Char} (hc : c ∈ name) :
      (isNameChar c || c == ':') = true := by
    rw [h.each c hc, Bool.true_or]
  obtain ⟨_ | p, localName⟩ := n
  · obtain ⟨start, each⟩ := id h.localName
    exact ⟨_, _, rfl, start, fun d hd => raw h.localName (List.mem_cons_of_mem _ hd)⟩
  · obtain ⟨start, each⟩ := id (h.qualifier p rfl)
    refine ⟨_, _, rfl, start, fun d hd => ?_⟩
    rcases List.mem_append.1 hd with hd | hd
    · exact raw (h.qualifier _ rfl) (List.mem_cons_of_mem _ hd)
    rcases List.mem_cons.1 hd with rfl | hd
    · rfl
    · exact raw h.localName hd

theorem scanRawName_append (h : n.IsProper) (stop : isNameChar d = false) (colon : d ≠ ':')
    (rest : List Char) :
    scanRawName (n.written ++ d :: rest) = .ok (n.written, d :: rest) := by
  obtain ⟨c, more, written, start, each⟩ := h.written
  have stops : (isNameChar d || d == ':') = false := by
    rw [stop, Bool.false_or, beq_eq_false_iff_ne.2 colon]
  rw [written, List.cons_append, scanRawName, if_pos start, span_append each stops]
  rfl

/-! ## Tags -/

theorem scanOpening_bare (h : n.IsProper) (rest : List Char) :
    scanOpening (n.written ++ '>' :: rest) = .ok (.opening ⟨n, [], false⟩, rest) := by
  simp only [scanOpening, scanQualifiedName_append h (d := '>') rfl (by decide), bind, Except.bind,
    pure, Except.pure]
  rfl

theorem scanClosing_append (h : n.IsProper) (rest : List Char) :
    scanClosing (n.written ++ '>' :: rest) = .ok (.closing n.written (n.written ++ '>' :: rest), rest) := by
  simp only [scanClosing, scanRawName_append h (d := '>') rfl (by decide), bind, Except.bind, pure,
    Except.pure]
  rfl

theorem scanContent_tag (start : isNameStart c = true) (s : List Char) :
    scanContent true ('<' :: c :: s) = scanOpening (c :: s) := by
  rw [scanContent]
  all_goals
    rintro _ e
    rw [(List.cons.inj e).1] at start
    exact absurd start (by decide)

theorem scanContent_opening (h : n.IsProper) (rest : List Char) :
    scanContent true ('<' :: (n.written ++ '>' :: rest)) = .ok (.opening ⟨n, [], false⟩, rest) := by
  have scanned := scanOpening_bare h rest
  obtain ⟨c, more, written, start, -⟩ := h.written
  rw [written, List.cons_append] at scanned ⊢
  rw [scanContent_tag start, scanned]

theorem scanContent_closing (h : n.IsProper) (rest : List Char) :
    scanContent true ('<' :: '/' :: (n.written ++ '>' :: rest)) =
      .ok (.closing n.written (n.written ++ '>' :: rest), rest) := by
  rw [scanContent, scanClosing_append h]

/-! ## Comments -/

/-- The inside of a comment: no two dashes in a row, and none at its end. -/
structure IsComment (body : List Char) : Prop where
  chars : ∀ c ∈ body, isChar c = true
  dashes : ¬ ['-', '-'] <:+: body ++ ['-']

theorem scanCommentBody_append {body : List Char} (h : IsComment body) (rest : List Char) :
    scanCommentBody (body ++ '-' :: '-' :: '>' :: rest) = .ok rest := by
  induction body with
  | nil => rfl
  | cons c body ih =>
    have inner : IsComment body :=
      ⟨fun d hd => h.chars d (List.mem_cons_of_mem _ hd),
        fun more => h.dashes (more.trans (List.suffix_cons c _).isInfix)⟩
    rw [List.cons_append, scanCommentBody]
    · rw [if_pos (h.chars c List.mem_cons_self), ih inner]
    · rintro more rfl same
      refine h.dashes ?_
      cases body with
      | nil => exact (List.prefix_refl _).isInfix
      | cons d body =>
        obtain rfl : d = '-' := (List.cons.inj same).1
        exact List.IsPrefix.isInfix ⟨body ++ ['-'], rfl⟩

theorem scanContent_comment {body : List Char} (h : IsComment body) (rest : List Char) :
    scanContent true ('<' :: '!' :: '-' :: '-' :: body ++ '-' :: '-' :: '>' :: rest) =
      .ok (.comment, rest) := by
  simp [scanContent, scanMarked, scanComment, expectChar, scanCommentBody_append h, bind, Except.bind, pure,
    Except.pure]

/-! ## References -/

theorem scanReference_append (h : IsName name) (rest : List Char) :
    scanReference (name ++ ';' :: rest) = .ok (.entity name, rest) := by
  have scanned := scanName_append h (d := ';') rfl rest
  obtain ⟨start, -⟩ := h
  rw [List.cons_append] at scanned ⊢
  rw [scanReference, scanned]
  · rfl
  all_goals
    rintro _ e
    rw [(List.cons.inj e).1] at start
    exact absurd start (by decide)

theorem scanContent_reference (h : IsName name) (rest : List Char) :
    scanContent true ('&' :: name ++ ';' :: rest) = .ok (.reference (.entity name), rest) := by
  rw [List.cons_append, scanContent, scanReference_append h]
  rfl

theorem isName_of_predefined (h : (name, c) ∈ predefined) : IsName name := by
  simp only [predefined, List.mem_cons, Prod.mk.injEq, List.not_mem_nil, or_false] at h
  rcases h with ⟨rfl, -⟩ | ⟨rfl, -⟩ | ⟨rfl, -⟩ | ⟨rfl, -⟩ | ⟨rfl, -⟩ <;>
    exact .mk rfl (List.all_eq_true.1 rfl)

theorem lookup_predefined (h : (name, c) ∈ predefined) : predefined.lookup name = some c := by
  simp only [predefined, List.mem_cons, Prod.mk.injEq, List.not_mem_nil, or_false] at h
  rcases h with ⟨rfl, rfl⟩ | ⟨rfl, rfl⟩ | ⟨rfl, rfl⟩ | ⟨rfl, rfl⟩ | ⟨rfl, rfl⟩ <;> decide

/-! ## Texts and gaps -/

/-- A text is written with some characters plain, and others as references to predefined entities. -/
inductive Spells (plain : Char → Prop) : (written text : List Char) → Prop
  | nil : Spells plain [] []
  | plain {c : Char} {written text : List Char} (h : plain c) (rest : Spells plain written text) :
      Spells plain (c :: written) (c :: text)
  | reference {name : List Char} {c : Char} {written text : List Char} (h : (name, c) ∈ predefined)
      (rest : Spells plain written text) : Spells plain ('&' :: name ++ ';' :: written) (c :: text)

theorem spells_plain {plain : Char → Prop} (h : ∀ c ∈ s, plain c) : Spells plain s s := by
  induction s with
  | nil => exact .nil
  | cons c s ih =>
    rw [List.forall_mem_cons] at h
    exact .plain h.1 (ih h.2)

/-- What stands between parts: white space of a class, and comments. -/
inductive IsGap (white : Char → Prop) : List Char → Prop
  | nil : IsGap white []
  | blank {c : Char} {s : List Char} (h : white c) (rest : IsGap white s) : IsGap white (c :: s)
  | comment {body s : List Char} (h : IsComment body) (rest : IsGap white s) :
      IsGap white ('<' :: '!' :: '-' :: '-' :: body ++ '-' :: '-' :: '>' :: s)

theorem IsGap.ofBlanks {white : Char → Prop} (h : ∀ c ∈ s, white c) : IsGap white s := by
  induction s with
  | nil => exact .nil
  | cons c s ih =>
    rw [List.forall_mem_cons] at h
    exact .blank h.1 (ih h.2)

end ModuleAudit.Markup
