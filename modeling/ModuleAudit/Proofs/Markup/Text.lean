import ModuleAudit.Proofs.Markup.Element
import ModuleAudit.Proofs.Markup.Scan

/-!
# Reading text

What stands between two tags is text, or only a gap: it is read up to the next tag as what it stands for.

* `Leads`: reading goes on from one place to another. It takes a step for each part (`Leads.part`);
* `Data`: what text stands for. It is read up to the next tag (`Data.reads`);
* `reads_gap`, `reads_text`: a gap leaves nothing but blanks, and so do the gaps around a text.
-/

namespace ModuleAudit.Markup

open ModuleAudit.Text (AllBlank allBlank_nil)

/-! ## Steps of a reading -/

namespace Reading

variable {α β : Type} {x : Reading α} {a : α} {b b' : Budget}

theorem bind_ok (h : x b = .ok (a, b')) (f : α → Reading β) : (x >>= f) b = f a b' := by
  simp only [bind, StateT.bind, h, Except.bind]

theorem bind_error {e : Malformed} (h : x b = .error e) (f : α → Reading β) : (x >>= f) b = .error e := by
  simp only [bind, StateT.bind, h, Except.bind]

theorem pure_ok (a : α) (b : Budget) : (pure a : Reading α) b = .ok (a, b) := rfl

theorem placing_ok (h : x b = .ok (a, b')) (f : Malformed → Malformed) : placing f x b = .ok (a, b') := by
  rw [placing, h, Except.mapError]

theorem lift_ok {x : Except Malformed α} (h : x = .ok a) (b : Budget) :
    (liftM x : Reading α) b = .ok (a, b) := by
  rw [h]
  rfl

theorem advance_ok (rest : List Char) (b : Budget) :
    advance rest b = .ok ((), { b with rest, counted := none }) := rfl

end Reading

/-! ## From place to place -/

/-- Reading a document that declares nothing. -/
def plainSetup : Setup := ⟨{}, expandEntity {} 1 [], []⟩

/-- Reading goes on from a place in the content of an element to another. -/
def Leads (c : Course) (s : List Char) (c' : Course) (s' : List Char) : Prop :=
  ∀ fuel b, s.length < fuel → ∃ fuel' b', s'.length < fuel' ∧
    readContent plainSetup fuel c s b = readContent plainSetup fuel' c' s' b'

variable {c c' c'' : Course} {s s' s'' rest : List Char}

theorem Leads.refl (c : Course) (s : List Char) : Leads c s c s := fun fuel b lt => ⟨fuel, b, lt, rfl⟩

theorem Leads.trans (h : Leads c s c' s') (h' : Leads c' s' c'' s'') : Leads c s c'' s'' := by
  intro fuel b lt
  obtain ⟨fuel', b', lt', same⟩ := h fuel b lt
  obtain ⟨fuel'', b'', lt'', same'⟩ := h' fuel' b' lt'
  exact ⟨fuel'', b'', lt'', same.trans same'⟩

/-- A part of content is read, and reading ends after it if no element is open. -/
theorem readContent_part {x : Char} {part : Part} (fuel : Nat) {b b' : Budget}
    (scanned : scanContent true (x :: s) = .ok (part, rest)) (more : x :: s ≠ ['\r'])
    (done : readPart plainSetup (x :: s) c part rest { b with rest, counted := none } =
      .ok ((c', rest), b')) :
    readContent plainSetup (fuel + 1) c (x :: s) b =
      if c'.stack.isEmpty then .ok ((c', rest), b') else readContent plainSetup fuel c' rest b' := by
  have isDocument : plainSetup.isDocument = true := rfl
  rw [readContent]
  · rw [isDocument, Bool.true_and, if_neg (by rwa [beq_iff_eq]), scanned]
    dsimp only
    rw [if_pos rfl, Reading.bind_ok (Reading.advance_ok ..),
      Reading.bind_ok (Reading.placing_ok done _), Bool.true_and]
    cases c'.stack.isEmpty <;> rfl
  · exact List.cons_ne_nil _ _

/-- Reading goes on after a part that leaves an element open. -/
theorem Leads.part {x : Char} {part : Part} (scanned : scanContent true (x :: s) = .ok (part, rest))
    (more : x :: s ≠ ['\r']) (shorter : rest.length ≤ s.length) (isOpen : c'.stack ≠ [])
    (done : ∀ b, ∃ b', readPart plainSetup (x :: s) c part rest b = .ok ((c', rest), b')) :
    Leads c (x :: s) c' rest := by
  intro fuel b lt
  cases fuel with
  | zero => exact absurd lt (Nat.not_lt_zero _)
  | succ fuel =>
    obtain ⟨b', done⟩ := done { b with rest, counted := none }
    refine ⟨fuel, b', by simp only [List.length_cons] at lt; omega, ?_⟩
    rw [readContent_part fuel scanned more done, if_neg (by simpa using isOpen)]

namespace Course

/-- The course after some events. -/
def pushAll (c : Course) (es : List Event) : Course := { c with events := es.reverse ++ c.events }

@[simp] theorem stack_pushAll (c : Course) (es : List Event) : (c.pushAll es).stack = c.stack := rfl
@[simp] theorem pushAll_nil (c : Course) : c.pushAll [] = c := rfl

@[simp] theorem pushAll_pushAll (c : Course) (es es' : List Event) :
    (c.pushAll es).pushAll es' = c.pushAll (es ++ es') := by
  simp only [pushAll, List.reverse_append, List.append_assoc]

end Course

/-! ## Text -/

/-- A character that may stand for itself in text. -/
def IsPlain (c : Char) : Prop := isChar c = true ∧ c ∉ ['<', '>', '&', '\n', '\r']

instance (c : Char) : Decidable (IsPlain c) := inferInstanceAs (Decidable (_ ∧ _))

/-- What text between tags stands for: line ends are newlines, references are replaced and comments leave
nothing. -/
inductive Data : (written text : List Char) → Prop
  | nil : Data [] []
  | plain {c : Char} {w t : List Char} (h : IsPlain c) (rest : Data w t) : Data (c :: w) (c :: t)
  | newline {w t : List Char} (rest : Data w t) : Data ('\n' :: w) ('\n' :: t)
  | returned {w t : List Char} (rest : Data w t) : Data ('\r' :: '\n' :: w) ('\n' :: t)
  | bareReturn {w t : List Char} (next : w.head? ≠ some '\n') (rest : Data w t) :
      Data ('\r' :: w) ('\n' :: t)
  | reference {name : List Char} {c : Char} {w t : List Char} (h : (name, c) ∈ predefined)
      (rest : Data w t) :
      Data ('&' :: name ++ ';' :: w) (c :: t)
  | comment {body w t : List Char} (h : IsComment body) (rest : Data w t) :
      Data ('<' :: '!' :: '-' :: '-' :: body ++ '-' :: '-' :: '>' :: w) t

/-- A character that ends a run of text. -/
def EndsRun (c : Char) : Prop := c ∈ ['<', '&', '\n', '\r']

theorem scanText_append {run : List Char} (h : ∀ c ∈ run, IsPlain c) {d : Char} (ends : EndsRun d)
    (done rest : List Char) :
    scanText true done (run ++ d :: rest) = .ok (.text (done.reverse ++ run), d :: rest) := by
  induction run generalizing done with
  | nil =>
    rw [List.nil_append, scanText]
    · rw [if_pos, List.append_nil]
      simp only [EndsRun, List.mem_cons, List.not_mem_nil, or_false] at ends
      rcases ends with rfl | rfl | rfl | rfl <;> rfl
    · rintro more rfl
      exact absurd ends (by simp [EndsRun])
  | cons c run ih =>
    rw [List.forall_mem_cons] at h
    obtain ⟨⟨isC, notC⟩, others⟩ := h
    rw [List.cons_append, scanText]
    · rw [if_neg, ih others, List.reverse_cons, List.append_assoc, List.singleton_append]
      simp only [List.mem_cons, List.not_mem_nil, or_false, not_or] at notC
      simp [isC, notC]
    -- No section ends here: an angle bracket is not plain, and ends no run.
    · rintro more rfl e
      have noAngle {c : Char} (h : IsPlain c) : c ≠ '>' := by rintro rfl; exact h.2 (by decide)
      have notEnd {c : Char} (h : EndsRun c) : c ≠ ']' ∧ c ≠ '>' := by
        constructor <;> rintro rfl <;> exact absurd h (by simp [EndsRun])
      match run, others, e with
      | [], _, e => exact (notEnd ends).1 (List.cons.inj e).1
      | [_], _, e => exact (notEnd ends).2 (List.cons.inj (List.cons.inj e).2).1
      | _ :: c :: _, others, e =>
        exact noAngle (others c (by simp)) (List.cons.inj (List.cons.inj e).2).1

theorem scanContent_run {c : Char} {run : List Char} (h : ∀ d ∈ c :: run, IsPlain d) {d : Char}
    (ends : EndsRun d) (rest : List Char) :
    scanContent true (c :: run ++ d :: rest) = .ok (.text (c :: run), d :: rest) := by
  have plain := h c List.mem_cons_self
  have scanned := scanText_append h ends [] rest
  obtain ⟨isC, notC⟩ := plain
  simp only [List.mem_cons, List.not_mem_nil, or_false, not_or] at notC
  rw [List.cons_append] at scanned ⊢
  rw [scanContent.eq_def]
  split
  case h_7 x more _ _ _ _ _ _ e =>
    obtain ⟨rfl, rfl⟩ := List.cons.inj e
    rw [beq_eq_false_iff_ne.2 notC.2.2.2.2, Bool.false_and, if_neg Bool.false_ne_true, if_pos isC, scanned]
    rfl
  all_goals simp_all

/-- Text starts with a run of plain characters, up to one that ends it. -/
theorem Data.run {w t : List Char} (h : Data w t) :
    ∃ run w' t', w = run ++ w' ∧ t = run ++ t' ∧ Data w' t' ∧
      (∀ c ∈ run, IsPlain c) ∧ ∀ d ∈ w'.head?, EndsRun d := by
  induction h with
  | nil => exact ⟨[], [], [], rfl, rfl, .nil, by simp, by simp⟩
  | plain h _ ih =>
    obtain ⟨run, w', t', rfl, rfl, data, plain, ends⟩ := ih
    exact ⟨_ :: run, w', t', rfl, rfl, data, List.forall_mem_cons.2 ⟨h, plain⟩, ends⟩
  | newline rest => exact ⟨[], _, _, rfl, rfl, .newline rest, by simp, by simp [EndsRun]⟩
  | returned rest => exact ⟨[], _, _, rfl, rfl, .returned rest, by simp, by simp [EndsRun]⟩
  | bareReturn next rest => exact ⟨[], _, _, rfl, rfl, .bareReturn next rest, by simp, by simp [EndsRun]⟩
  | reference h rest => exact ⟨[], _, _, rfl, rfl, .reference h rest, by simp, by simp [EndsRun]⟩
  | comment h rest => exact ⟨[], _, _, rfl, rfl, .comment h rest, by simp, by simp [EndsRun]⟩

/-- The texts between two tags, as events. -/
def textEvents (texts : List String) : List Event := texts.map .text

theorem readPart_reference {name : List Char} {d : Char} (h : (name, d) ∈ predefined) (s rest : List Char)
    (b : Budget) : readPart plainSetup s c (.reference (.entity name)) rest b =
      .ok ((c.pushText [d], rest), { b with added := b.added + 1 }) := by
  have expanded : plainSetup.expand name c b = .ok (c.pushText [d], { b with added := b.added + 1 }) := by
    change expandEntity {} (0 + 1) [] name c b = _
    rw [expandEntity, lookup_predefined h]
    rfl
  rw [readPart, Reading.bind_ok expanded]
  rfl

/-- Text is read as what it stands for, up to the next tag. -/
def Reads (w t : List Char) : Prop :=
  ∃ texts : List String, texts.flatMap String.toList = t ∧ ∀ c rest, c.stack ≠ [] →
    Leads c (w ++ '<' :: rest) (c.pushAll (textEvents texts)) ('<' :: rest)

theorem Reads.part {x : Char} {w w' t : List Char} (part : Part) (read : List Char) (texts : List String)
    (h : Reads w' t) (same : texts.flatMap String.toList = read) (shorter : w'.length ≤ w.length)
    (scanned : ∀ rest, scanContent true (x :: w ++ '<' :: rest) = .ok (part, w' ++ '<' :: rest))
    (done : ∀ c s rest b, ∃ b',
      readPart plainSetup s c part rest b = .ok ((c.pushAll (textEvents texts), rest), b')) :
    Reads (x :: w) (read ++ t) := by
  obtain ⟨others, rfl, leads⟩ := h
  refine ⟨texts ++ others, by rw [List.flatMap_append, same], fun c rest isOpen => ?_⟩
  have first : Leads c (x :: w ++ '<' :: rest) (c.pushAll (textEvents texts)) (w' ++ '<' :: rest) :=
    .part (scanned rest) (by simp) (by simpa using shorter) isOpen fun b => done ..
  have := first.trans (leads _ rest isOpen)
  rwa [Course.pushAll_pushAll, textEvents, textEvents, ← List.map_append] at this

theorem Reads.lineEnd {x : Char} {w w' t : List Char} (h : Reads w' t) (shorter : w'.length ≤ w.length)
    (scanned : ∀ rest, scanContent true (x :: w ++ '<' :: rest) = .ok (.lineEnd, w' ++ '<' :: rest)) :
    Reads (x :: w) ('\n' :: t) :=
  h.part .lineEnd ['\n'] ["\n"] rfl shorter scanned fun _ _ _ b => ⟨b, rfl⟩

/-- Text is read up to the next tag. -/
theorem Data.reads {w t : List Char} (h : Data w t) : Reads w t := by
  -- The induction is on the length, since a run of plain characters is read at once.
  induction short : w.length using Nat.strongRecOn generalizing w t with
  | _ n ih =>
    subst short
    cases h with
    | nil => exact ⟨[], rfl, fun c rest _ => Leads.refl _ _⟩
    | newline rest =>
      exact (ih _ (by simp) rest rfl).lineEnd (Nat.le_refl _) fun rest => by simp [scanContent]
    | returned rest =>
      have shorter {w : List Char} : w.length < ('\r' :: '\n' :: w).length := by
        simp only [List.length_cons]
        omega
      exact (ih _ shorter rest rfl).lineEnd (by simp) fun rest => by simp [scanContent]
    | @bareReturn w t next rest =>
      refine (ih _ (by simp) rest rfl).lineEnd (Nat.le_refl _) fun rest => ?_
      have alone : ∀ more, w ++ '<' :: rest ≠ '\n' :: more := by
        cases w with
        | nil => simp
        | cons d w => simpa using next
      rw [List.cons_append, scanContent]
      · rfl
      case x_7 => exact alone
      all_goals simp
    | @reference name c w t h rest =>
      have shorter : w.length < ('&' :: name ++ ';' :: w).length := by simp; omega
      refine (ih _ shorter rest rfl).part (.reference (.entity name)) [c] [String.ofList [c]]
        (by simp) ?_ ?_ ?_
      · simp; omega
      · intro rest
        simpa using scanContent_reference (isName_of_predefined h) (w ++ '<' :: rest)
      · exact fun c s rest b => ⟨_, readPart_reference h s rest b⟩
    | @comment body w t h rest =>
      have shorter : w.length < ('<' :: '!' :: '-' :: '-' :: body ++ '-' :: '-' :: '>' :: w).length := by
        simp; omega
      refine (ih _ shorter rest rfl).part .comment [] [] rfl ?_ ?_ fun _ _ _ b => ⟨b, rfl⟩
      · simp; omega
      · intro rest
        simpa using scanContent_comment h (w ++ '<' :: rest)
    | @plain c w t h rest =>
      obtain ⟨run, w', t', rfl, rfl, data, plain, ends⟩ := rest.run
      have shorter : w'.length < (c :: (run ++ w')).length := by
        rw [List.length_cons, List.length_append]
        omega
      have plain := List.forall_mem_cons.2 ⟨h, plain⟩
      refine (ih _ shorter data rfl).part (.text (c :: run)) (c :: run) [String.ofList (c :: run)]
        (by simp) (by simp)
        ?_ fun _ _ _ b => ⟨b, rfl⟩
      intro after
      rw [← List.cons_append, List.append_assoc]
      cases w' with
      | nil => exact scanContent_run plain (show EndsRun '<' by simp [EndsRun]) after
      | cons d w' => exact scanContent_run plain (ends d rfl) (w' ++ '<' :: after)

/-! ### Gaps and spellings -/

/-- White space between the parts of an element. -/
def IsWhite (c : Char) : Prop := Text.isBlank c = true ∧ isChar c = true

instance (c : Char) : Decidable (IsWhite c) := inferInstanceAs (Decidable (_ ∧ _))

theorem IsWhite.isPlain {c : Char} (h : IsWhite c) (newline : c ≠ '\n') (ret : c ≠ '\r') : IsPlain c := by
  refine ⟨h.2, fun mem => ?_⟩
  simp only [List.mem_cons, List.not_mem_nil, or_false, newline, ret] at mem
  rcases mem with rfl | rfl | rfl <;> exact absurd h.1 (by decide)

/-- A blank in front of text leaves a blank. Only a carriage return before a newline leaves nothing. -/
theorem Data.white {c : Char} {w t : List Char} (h : IsWhite c) (data : Data w t) :
    ∃ x, AllBlank x ∧ Data (c :: w) (x ++ t) := by
  have newlineBlank : AllBlank ['\n'] := .cons rfl allBlank_nil
  by_cases newline : c = '\n'
  · subst newline
    exact ⟨['\n'], newlineBlank, .newline data⟩
  by_cases ret : c = '\r'
  · subst ret
    by_cases next : w.head? = some '\n'
    · cases data with
      | newline rest => exact ⟨[], allBlank_nil, .returned rest⟩
      | plain plain rest =>
        obtain rfl := Option.some.inj next
        exact absurd plain.2 (by decide)
      | _ => simp at next
    · exact ⟨['\n'], newlineBlank, .bareReturn next data⟩
  · exact ⟨[c], .cons h.1 allBlank_nil, .plain (h.isPlain newline ret) data⟩

theorem Data.gap {g w t : List Char} (h : IsGap IsWhite g) (data : Data w t) :
    ∃ x, AllBlank x ∧ Data (g ++ w) (x ++ t) := by
  induction h with
  | nil => exact ⟨[], allBlank_nil, data⟩
  | blank h _ ih =>
    obtain ⟨x, blank, inner⟩ := ih
    obtain ⟨y, blank', outer⟩ := inner.white h
    exact ⟨y ++ x, blank'.append blank, by rwa [List.append_assoc]⟩
  | comment h _ ih =>
    obtain ⟨x, blank, inner⟩ := ih
    exact ⟨x, blank, by simpa using Data.comment h inner⟩

theorem Data.spells {written text w t : List Char} (h : Spells IsPlain written text) (data : Data w t) :
    Data (written ++ w) (text ++ t) := by
  induction h with
  | nil => exact data
  | plain h _ ih => exact .plain h ih
  | reference h _ ih => simpa using Data.reference h ih

theorem reads_gap {g : List Char} (h : IsGap IsWhite g) : ∃ x, AllBlank x ∧ Reads g x := by
  obtain ⟨x, blank, data⟩ := Data.gap h .nil
  rw [List.append_nil, List.append_nil] at data
  exact ⟨x, blank, data.reads⟩

theorem reads_text {before written text after : List Char} (hb : IsGap IsWhite before)
    (spelled : Spells IsPlain written text) (ha : IsGap IsWhite after) :
    ∃ x y, AllBlank x ∧ AllBlank y ∧ Reads (before ++ (written ++ after)) (x ++ (text ++ y)) := by
  obtain ⟨y, blankAfter, data⟩ := Data.gap ha .nil
  rw [List.append_nil, List.append_nil] at data
  obtain ⟨x, blank, data⟩ := Data.gap hb (Data.spells spelled data)
  exact ⟨x, y, blank, blankAfter, data.reads⟩

end ModuleAudit.Markup
