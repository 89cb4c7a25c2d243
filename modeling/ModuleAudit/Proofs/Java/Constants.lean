import ModuleAudit.Java.Source
import ModuleAudit.Proofs.Java.Literal
import ModuleAudit.Proofs.Java.Recovery

/-!
# String constants are recovered

A string constant stands on one line: its words with blanks behind them (`ConstantHead`), and a
literal. What is found in a text is always of this form (`fits_stringConstant`), and its name and its
value are kept as they are written (`takes_stringConstant`). So the last constant of a name in a file
gives the name its value, whatever stands in it (`Constant.LastIn.lookup`).
-/

namespace ModuleAudit.Java

open ModuleAudit.Text (isBlank isIdent isWord)
open ModuleAudit.Pattern (headIs)

/-! ## Words and blanks -/

/-- One blank or more. -/
structure Space extends Blanks where
  nonempty : chars ≠ []

/-- A single space. -/
def Space.one : Space := ⟨.one, Blanks.one_ne_nil⟩

theorem Space.run (s : Space) : IsRun isBlank s.chars := ⟨s.nonempty, s.blank⟩

theorem Blanks.not_mem {c : Char} (h : isBlank c = false) (b : Blanks) : c ∉ b.chars := fun mem =>
  absurd (b.blank c mem) (by simp [h])

/-- The characters of a word of the language. -/
def keyword (w : String) : List Char := w.toList

/-- What ends with a run of one kind and then characters of another kind is cut in front of these in one
way only. -/
theorem run_end_inj {p q : Char → Bool} {x x' v v' w w' : List Char} (run : IsRun p v)
    (run' : IsRun p v') (apart : ∀ c, p c = true → q c = false) (each : ∀ c ∈ w, q c = true)
    (each' : ∀ c ∈ w', q c = true) (h : x ++ v ++ w = x' ++ v' ++ w') :
    x ++ v = x' ++ v' ∧ w = w' := by
  have same {x x' v v' w w' : List Char} (run' : IsRun p v') (each : ∀ c ∈ w, q c = true)
      (e : ∃ u, x' ++ v' = x ++ v ++ u ∧ w = u ++ w') : x ++ v = x' ++ v' ∧ w = w' := by
    obtain ⟨u, front, rfl⟩ := e
    rcases List.eq_nil_or_concat u with rfl | ⟨u, c, rfl⟩
    · exact ⟨by simpa using front.symm, rfl⟩
    · have first : q c = true := each c (by simp)
      obtain ⟨v', d, rfl⟩ : ∃ v d, v' = v ++ [d] :=
        ⟨_, _, (List.dropLast_concat_getLast run'.nonempty).symm⟩
      rw [List.concat_eq_append, ← List.append_assoc, ← List.append_assoc] at front
      obtain ⟨-, last⟩ := List.append_inj' front rfl
      obtain rfl : d = c := by simpa using last
      rw [apart d (run'.each d (by simp))] at first
      cases first
  rcases List.append_eq_append_iff.1 h with e | e
  · exact same run' each e
  · exact (same run each' e).imp Eq.symm Eq.symm

/-- A character that may stand before the value of a constant. -/
def isOfOpening (c : Char) : Bool := isIdent c || isBlank c || c == '='

theorem isInert_of_isOfOpening {c : Char} (h : isOfOpening c = true) : IsInert c := by
  refine ⟨?_, ?_⟩
  · rintro rfl
    exact absurd h (by decide)
  · rintro (rfl | rfl) <;> exact absurd h (by decide)

theorem isOfOpening_of_isBlank {c : Char} (h : isBlank c = true) : isOfOpening c = true := by
  simp [isOfOpening, h]

theorem isOfOpening_of_isIdent {c : Char} (h : isIdent c = true) : isOfOpening c = true := by
  simp [isOfOpening, h]

theorem Blanks.isOfOpening (b : Blanks) : ∀ c ∈ b.chars, isOfOpening c = true := fun c hc =>
  isOfOpening_of_isBlank (b.blank c hc)

theorem isOfOpening_of_keyword {w : String} (h : w.toList.all isIdent = true) :
    ∀ c ∈ keyword w, isOfOpening c = true := fun c hc =>
  isOfOpening_of_isIdent (List.all_eq_true.1 h c hc)

/-! ## The content of a literal -/

/-- The content of a literal is read up to the quote that ends it. -/
theorem reads_literalContent {w : List Char} (closed : Content '"' w) (line : '\n' ∉ w) (y : List Char) :
    Source.literalContent.Reads w ('"' :: y) [] := by
  induction closed with
  | nil =>
    refine Pattern.Reads.star_nil fun s h => Pattern.ends_eq_nil fun w y split fit => ?_
    rw [h] at split
    rcases fit with ⟨c, plain, rfl⟩ | ⟨u, v, rfl, fit, -⟩
    · obtain rfl : '"' = c := (List.cons.inj split).1
      exact absurd plain (by decide)
    · obtain rfl := Pattern.fits_exactly.1 fit
      exact absurd (List.cons.inj split).1 (by decide)
  | @escape c s _ ih =>
    simp only [List.mem_cons, not_or] at line
    have pair : (Pattern.seq (.exactly '\\') (.char (· != '\n'))).Reads ['\\', c] (s ++ '"' :: y) [] :=
      (Pattern.reads_exactly '\\' _).seq (Pattern.reads_char (by simpa using Ne.symm line.2.1) _)
    refine Pattern.Reads.star_cons (u := ['\\', c]) (List.cons_ne_nil _ _) (fun p after => ?_)
      (ih line.2.2)
    refine (pair p after).either_right (Pattern.ends_eq_nil ?_)
    rintro _ y split ⟨d, plain, rfl⟩
    rw [after] at split
    obtain rfl : '\\' = d := (List.cons.inj split).1
    exact absurd plain (by decide)
  | @plain c s backslash quote newline _ ih =>
    have plain : (!("\"\\\n".toList.contains c)) = true := by simp [backslash, quote, newline]
    exact Pattern.Reads.star_cons (u := [c]) (List.cons_ne_nil _ _)
      (fun p after => (Pattern.reads_char plain _ p after).either_left)
      (ih (List.not_mem_of_not_mem_cons line))

theorem fits_literalContent {before w after : List Char}
    (h : Source.literalContent.Fits before w after) : Content '"' w ∧ '\n' ∉ w := by
  change Pattern.Repeats _ before w after at h
  induction h with
  | nil => exact ⟨.nil, List.not_mem_nil⟩
  | cons _ step _ ih =>
    rcases step with ⟨c, plain, rfl⟩ | ⟨_, _, rfl, backslash, c, plain, rfl⟩
    · have plain : c ≠ '"' ∧ c ≠ '\\' ∧ c ≠ '\n' := by simpa using plain
      exact ⟨.plain plain.2.1 plain.1 plain.2.2 ih.1, by simp [ih.2, Ne.symm plain.2.2]⟩
    · obtain rfl := Pattern.fits_exactly.1 backslash
      have plain : c ≠ '\n' := by simpa using plain
      exact ⟨.escape ih.1, by simp [ih.2, Ne.symm plain]⟩

/-! ## What is written before the value -/

/-- The words of a string constant up to its value, with the blanks behind each of them. -/
structure ConstantHead where
  afterStatic : Space
  afterFinal : Space
  afterType : Space
  name : List Char
  afterName : Blanks
  afterEquals : Blanks
  name_run : IsRun isIdent name

namespace ConstantHead

variable (h : ConstantHead)

/-- The words as they are written. -/
def text : List Char :=
  keyword "static" ++ (h.afterStatic.chars ++ (keyword "final" ++ (h.afterFinal.chars ++
    (keyword "String" ++ (h.afterType.chars ++ (h.name ++ (h.afterName.chars ++ (['='] ++
      h.afterEquals.chars))))))))

theorem text_each : ∀ c ∈ h.text, isOfOpening c = true := by
  simp only [text, List.forall_mem_append, List.forall_mem_singleton]
  exact ⟨isOfOpening_of_keyword (by decide), h.afterStatic.isOfOpening,
    isOfOpening_of_keyword (by decide), h.afterFinal.isOfOpening, isOfOpening_of_keyword (by decide),
    h.afterType.isOfOpening, fun c hc => isOfOpening_of_isIdent (h.name_run.each c hc),
    h.afterName.isOfOpening, rfl, h.afterEquals.isOfOpening⟩

theorem quote_not_mem_text : '"' ∉ h.text := fun mem => absurd (h.text_each _ mem) (by decide)

theorem head?_text : h.text.head? = some 's' := rfl

variable {h}

/-- The words do not go on to the words of a constant. -/
theorem eq_nil_of_text {h' : ConstantHead} {z : List Char} (e : h'.text = z ++ h.text) : z = [] := by
  have sign : IsRun (· == '=') ['='] := ⟨List.cons_ne_nil _ _, List.forall_mem_singleton.2 rfl⟩
  have solid : ∀ c : Char, (c == '=') = true → isBlank c = false := by
    rintro c h
    rw [eq_of_beq h]
    decide
  have word {w : String} (nonempty : w.toList ≠ []) (each : w.toList.all isIdent = true) :
      IsRun isIdent (keyword w) := ⟨nonempty, List.all_eq_true.1 each⟩
  simp only [text, ← List.append_assoc] at e
  have e := (run_end_inj sign sign solid h'.afterEquals.blank h.afterEquals.blank e).1
  have e := (run_end_inj h'.name_run h.name_run (fun _ => isBlank_of_isIdent) h'.afterName.blank
    h.afterName.blank (List.append_cancel_right e)).1
  have e := (run_end_inj h'.afterType.run h.afterType.run (fun _ => isIdent_of_isBlank)
    h'.name_run.each h.name_run.each e).1
  have type := word (w := "String") (by decide) (by decide)
  have e := (run_end_inj type type (fun _ => isBlank_of_isIdent) h'.afterType.blank h.afterType.blank e).1
  have final := word (w := "final") (by decide) (by decide)
  have e := (run_end_inj final final (fun _ => isBlank_of_isIdent) h'.afterFinal.blank
    h.afterFinal.blank (List.append_cancel_right e)).1
  have static := word (w := "static") (by decide) (by decide)
  have e := (run_end_inj (x := []) static static (fun _ => isBlank_of_isIdent) h'.afterStatic.blank
    h.afterStatic.blank (List.append_cancel_right e)).1
  simpa using e

end ConstantHead

/-! ## Reading a constant -/

/-- What is read as a constant begins where a word does. Its words stand before a literal. -/
theorem fits_stringConstant {before w after : List Char}
    (fit : Source.stringConstant.Fits before w after) :
    headIs isWord before = false ∧ ∃ (h : ConstantHead) (l : Literal), w = h.text ++ l.text := by
  simp only [Source.stringConstant, Pattern.fits_sequence_cons, Pattern.fits_sequence_nil,
    Pattern.fits_edge, Pattern.fits_word, Pattern.fits_blanks, Pattern.fits_capture,
    Pattern.fits_many, Pattern.fits_gap, Pattern.fits_exactly] at fit
  obtain ⟨_, _, rfl, ⟨rfl, edge⟩, _, _, rfl, rfl, g₁, _, rfl, run₁, _, _, rfl, rfl, g₂, _, rfl, run₂, _, _,
    rfl, rfl, g₃, _, rfl, run₃, k, _, rfl, run, g₄, _, rfl, blank₄, _, _, rfl, rfl, g₅, _, rfl, blank₅,
    _, _, rfl, rfl, v, _, rfl, content, _, _, rfl, rfl, rfl⟩ := fit
  obtain ⟨closed, line⟩ := fits_literalContent content
  have word : isWord 's' = true := by decide
  refine ⟨?_, ⟨⟨⟨g₁, run₁.each⟩, run₁.nonempty⟩, ⟨⟨g₂, run₂.each⟩, run₂.nonempty⟩,
    ⟨⟨g₃, run₃.each⟩, run₃.nonempty⟩, k, ⟨g₄, blank₄⟩, ⟨g₅, blank₅⟩, run⟩, ⟨v, closed, line⟩, ?_⟩
  · simpa [headIs, word] using edge
  · simp [ConstantHead.text, keyword, Literal.text]

/-- Where a word begins, the name and the value of a constant are kept as they are written. -/
theorem takes_stringConstant {s : Place} {y : List Char} (h : ConstantHead) (l : Literal)
    (after : s.after = h.text ++ l.text ++ y) (apart : headIs isWord s.before = false) :
    Source.stringConstant.Takes s (h.text ++ l.text) [(2, l.content), (1, h.name)] := by
  have named : ∀ d ∈ h.name, isBlank d = false := fun d hd => isBlank_of_isIdent (h.name_run.each d hd)
  have parts :=
    (Pattern.reads_text (keyword "static") _).cons <|
    (Pattern.reads_many h.afterStatic.run rfl).cons <|
    (Pattern.reads_text (keyword "final") _).cons <|
    (Pattern.reads_many h.afterFinal.run rfl).cons <|
    (Pattern.reads_text (keyword "String") _).cons <|
    (Pattern.reads_many h.afterType.run (by
      rw [List.append_assoc]
      exact headIs_run h.name_run.nonempty named _)).cons <|
    ((Pattern.reads_many h.name_run (by
      rw [List.append_assoc]
      exact headIs_append h.afterName.blank (fun _ => isIdent_of_isBlank) rfl)).capture (k := 1)).cons <|
    (Pattern.reads_most h.afterName.blank rfl).cons <|
    (Pattern.reads_exactly '=' _).cons <|
    (Pattern.reads_most h.afterEquals.blank rfl).cons <|
    (Pattern.reads_exactly '"' _).cons <|
    ((reads_literalContent l.closed l.line _).capture (k := 2)).cons <|
    (Pattern.reads_exactly '"' _).cons <|
    Pattern.reads_sequence_nil y
  have reads : (Pattern.sequence [
      .word "static", .blanks, .word "final", .blanks, .word "String", .blanks,
      .capture 1 (.many isIdent), .gap, .exactly '=', .gap,
      .exactly '"', .capture 2 Source.literalContent, .exactly '"']).Reads
      (h.text ++ l.text) y [(2, l.content), (1, h.name)] := by
    simpa [ConstantHead.text, keyword, Literal.text, Pattern.word, Pattern.blanks,
      Pattern.gap] using parts
  exact reads.after_edge after apart rfl

/-- What is found in a text is a constant with the name and the value that are kept. -/
theorem of_mem_stringConstant {text : List Char} {m : Match}
    (mem : m ∈ Source.stringConstant.findAll text) :
    ∃ (x : List Char) (h : ConstantHead) (l : Literal) (y : List Char),
      text = x ++ (h.text ++ (l.text ++ y)) ∧ x.length = m.start.offset ∧
        m.capture 1 = h.name ∧ m.capture 2 = l.content := by
  obtain ⟨place, stop⟩ := Pattern.mem_findAll mem
  obtain ⟨w, way, fit⟩ := Pattern.fits_of_mem_ends stop
  obtain ⟨apart, h, l, rfl⟩ := fits_stringConstant fit
  have captures := Pattern.captures_of_mem_findFrom mem (takes_stringConstant h l way.after apart)
  refine ⟨m.start.before.reverse, h, l, m.stop.after, ?_, ?_, ?_, ?_⟩
  · rw [← place.split, way.after, List.append_assoc]
  · rw [List.length_reverse, place.offset]
  · rw [Match.capture, Place.capture, captures]
    rfl
  · rw [Match.capture, Place.capture, captures]
    rfl

/-! ## The values of names -/

theorem lookup_setValue {α : Type} (key k : String) (value : α) (pairs : List (String × α)) :
    (Source.setValue key value pairs).lookup k = if k == key then some value else pairs.lookup k := by
  induction pairs with
  | nil =>
    rw [Source.setValue, List.lookup_cons]
    cases k == key <;> rfl
  | cons p pairs ih =>
    obtain ⟨k', v⟩ := p
    rw [Source.setValue, List.lookup_cons]
    split
    next same =>
      obtain rfl : k' = key := eq_of_beq same
      rw [List.lookup_cons]
      cases k == k' <;> rfl
    next other =>
      rw [List.lookup_cons, ih]
      cases here : k == k' with
      | false => rfl
      | true =>
        obtain rfl : k = k' := eq_of_beq here
        exact (if_neg other).symm

/-- Of the values that a key is given one after another, it has the last one. -/
theorem lookup_foldl_setValue {α β : Type} (k : String) (key : β → String) (value : β → α)
    (given : List β) (pairs : List (String × α)) :
    (given.foldl (fun found b => Source.setValue (key b) (value b) found) pairs).lookup k =
      ((given.reverse.find? fun b => k == key b).map value).or (pairs.lookup k) := by
  induction given generalizing pairs with
  | nil => rfl
  | cons b given ih =>
    rw [List.foldl_cons, ih, lookup_setValue, List.reverse_cons, List.find?_append, Option.map_or,
      Option.or_assoc, List.find?_cons]
    cases k == key b <;> rfl

theorem lookup_stringConstants (s : Source) (k : String) :
    s.stringConstants.lookup k = ((Source.stringConstant.findAll s.code).reverse.find? fun m =>
      k == String.ofList (m.capture 1)).map fun m => String.ofList (m.capture 2) := by
  have last := lookup_foldl_setValue k (fun m : Match => String.ofList (m.capture 1))
    (fun m => String.ofList (m.capture 2)) (Source.stringConstant.findAll s.code) []
  rwa [List.lookup_nil, Option.or_none] at last

/-! ## Constants in a text -/

/-- A string constant as it is written in a class. -/
structure Constant where
  head : ConstantHead
  value : Literal
  afterValue : Blanks

namespace Constant

variable (c : Constant)

/-- The name. -/
def name : List Char := c.head.name

/-- What is written behind the value. -/
def ending : List Char := c.afterValue.chars ++ [';']

/-- The constant as it is written. -/
def text : List Char := c.head.text ++ (c.value.text ++ c.ending)

theorem ending_isInert : ∀ d ∈ c.ending, IsInert d :=
  List.forall_mem_append.2 ⟨fun d hd => isInert_of_isOfOpening (c.afterValue.isOfOpening d hd),
    List.forall_mem_singleton.2 (by decide)⟩

theorem copied : Copied c.text c.text (c.head.text ++ (c.value.bare ++ c.ending)) :=
  (copied_of_isInert fun d hd => isInert_of_isOfOpening (c.head.text_each d hd)).append
    (c.value.copied (by simp [ending]) c.ending_isInert)

/-- The constant stands in the text behind `pre`, where a word begins. What begins like a constant
before it has its value there, and no constant of the same name follows it. -/
structure LastIn (pre post text : List Char) : Prop where
  split : text = pre ++ c.text ++ post
  whole : IsWhole pre
  apart : headIs isWord (codeOf pre).reverse = false
  closed : ∀ (x : List Char) (h : ConstantHead) (y : List Char), codeOf pre = x ++ (h.text ++ '"' :: y) →
    ∃ (l : Literal) (y' : List Char), '"' :: y = l.text ++ y'
  last : ∀ (x : List Char) (h : ConstantHead) (y : List Char), codeOf post = x ++ (h.text ++ '"' :: y) →
    h.name ≠ c.name

variable {c} {pre post text : List Char}

theorem LastIn.code_eq (h : c.LastIn pre post text) :
    codeOf text = codeOf pre ++ (c.head.text ++ c.value.text) ++ (c.ending ++ codeOf post) := by
  rw [h.split, (h.whole.append c.copied).code]
  simp [Constant.text]

/-- The constant is found, and nothing that is found before it goes on behind it. -/
theorem LastIn.exists_mem (h : c.LastIn pre post text) :
    ∃ m ∈ Source.stringConstant.findAll (codeOf text), m.capture 1 = c.name ∧
      m.capture 2 = c.value.content ∧
      m.stop.offset = (codeOf pre ++ (c.head.text ++ c.value.text)).length := by
  obtain ⟨m, found, -, way, captures⟩ := (takes_stringConstant c.head c.value
    (s := ⟨(codeOf pre).reverse, _, (codeOf pre).length, []⟩) rfl h.apart).matchAt?
  refine ⟨m, ?_, ?_, ?_, ?_⟩
  · rw [h.code_eq, List.append_assoc]
    refine Pattern.mem_findAll_of_matchAt? found fun a u v b front nonempty back covered fit => ?_
    obtain ⟨-, head, l, whole⟩ := fits_stringConstant fit
    have quote : u ++ (c.head.text ++ '"' :: (c.value.content ++ '"' :: (c.ending ++ codeOf post))) =
        head.text ++ '"' :: (l.content ++ '"' :: b) := by
      have together : u ++ (v ++ b) = head.text ++ l.text ++ b := by rw [← List.append_assoc, whole]
      rw [← back] at together
      simpa [Literal.text] using together
    rcases List.append_eq_append_iff.1 quote with ⟨x, split, rest⟩ | ⟨x, rfl, rest⟩
    · -- The words that are read first are those of the constant.
      have free : '"' ∉ x := fun mem => head.quote_not_mem_text (split ▸ List.mem_append_right u mem)
      obtain ⟨rfl, -⟩ := first_place_inj c.head.quote_not_mem_text free rest
      exact nonempty (ConstantHead.eq_nil_of_text split)
    · cases x with
      | nil => exact absurd (congrArg List.head? rest) (by simp [c.head.head?_text])
      | cons d x =>
        -- They stand before it, and their value does as well.
        obtain rfl : '"' = d := (List.cons.inj rest).1
        obtain ⟨l', y, value⟩ := h.closed a head x (by simpa using front)
        have value' : l.text ++ [] = l'.text ++ (y ++ v) := by
          rw [List.append_assoc, List.append_cancel_left_eq] at whole
          rw [← List.append_assoc, ← value, whole, List.append_nil]
        have none := (Literal.text_append_inj value').2
        exact covered (List.append_eq_nil_iff.1 none.symm).2
  · rw [Match.capture, Place.capture, captures]
    rfl
  · rw [Match.capture, Place.capture, captures]
    rfl
  · exact way.offset.trans List.length_append.symm

/-- What is found behind the constant has other names. -/
theorem LastIn.name_ne (h : c.LastIn pre post text) {m : Match}
    (mem : m ∈ Source.stringConstant.findAll (codeOf text))
    (behind : (codeOf pre ++ (c.head.text ++ c.value.text)).length ≤ m.start.offset) :
    m.capture 1 ≠ c.name := by
  obtain ⟨x, head, l, y, split, place, name, -⟩ := of_mem_stringConstant mem
  rw [← place] at behind
  have rest := congrArg (List.drop (codeOf pre ++ (c.head.text ++ c.value.text)).length) split
  rw [h.code_eq, List.drop_left, List.drop_append_of_le_length behind] at rest
  rw [name]
  rcases List.append_eq_append_iff.1 rest with ⟨z, -, post⟩ | ⟨z, ending, post⟩
  · exact h.last z head (l.content ++ '"' :: y) (by simpa [Literal.text] using post)
  · cases z with
    | nil => exact h.last [] head (l.content ++ '"' :: y) (by simpa [Literal.text] using post.symm)
    | cons d z =>
      -- The end of a constant holds no letter.
      obtain rfl : 's' = d := (List.cons.inj post).1
      have letter : 's' ∈ c.ending := by simp [ending]
      rw [Constant.ending, List.mem_append, List.mem_singleton] at letter
      rcases letter with blank | sign
      · exact absurd blank (c.afterValue.not_mem (by decide))
      · exact absurd sign (by decide)

/-- A name has the value of its last constant in a file. -/
theorem LastIn.lookup {s : Source} (h : c.LastIn pre post s.text) :
    s.stringConstants.lookup (String.ofList c.name) = some (String.ofList c.value.content) := by
  obtain ⟨m, mem, name, value, stop⟩ := h.exists_mem
  obtain ⟨ms, ms', cut⟩ := List.append_of_mem mem
  have ordered := Pattern.pairwise_findAll Source.stringConstant (codeOf s.text)
  rw [cut, List.pairwise_append, List.pairwise_cons] at ordered
  have none : ms'.reverse.find? (fun m => String.ofList c.name == String.ofList (m.capture 1)) =
      Option.none := by
    rw [List.find?_eq_none]
    intro m' mem' same
    have mem' : m' ∈ ms' := List.mem_reverse.1 mem'
    have found : m' ∈ Source.stringConstant.findAll (codeOf s.text) :=
      cut ▸ List.mem_append_right _ (List.mem_cons_of_mem _ mem')
    refine h.name_ne found (stop ▸ ordered.2.1.1 m' mem') ?_
    exact (String.ofList_inj.1 (eq_of_beq same)).symm
  rw [lookup_stringConstants, Source.code_eq, cut, List.reverse_append, List.reverse_cons,
    List.append_assoc, List.find?_append, none, Option.none_or, List.singleton_append,
    List.find?_cons_of_pos (by simp [name]), Option.map_some, value]

end Constant

end ModuleAudit.Java
