import Mathlib.Data.List.TakeWhile
import ModuleAudit.Catalog.Basic
import ModuleAudit.Proofs.Answer
import ModuleAudit.Text.Alphanumeric

/-!
# Templates written from parts

A template can be written from texts and names of facts (`Part`): every brace of a text is doubled, and a name is
put between braces. Filled in, it gives the texts and the values of the facts in a row, whatever stands next to
what (`fill_template`): a doubled brace is read as one brace of a literal (`segmentsAfter_doubled`), and a name as
a field that holds nothing else (`IsName.readField`).
-/

namespace ModuleAudit.Template

open ModuleAudit.Text (digitValue? isWord)

/-! ## Parts -/

/-- The characters that mean something at the start of a field. -/
def signs : List Char := ['\x7b', '\x7d', '[', '.', ':', '!']

/-- A name that a field takes as it is: there are no signs in it, and it does not start with a digit. -/
structure IsName (name : String) : Prop where
  first : ∃ c, name.toList.head? = some c ∧ digitValue? c = none
  plain : ∀ c ∈ name.toList, c ∉ signs

/-- A part that a template is written from. -/
inductive Part
  | text (s : String)
  | fact (name : String) (isName : IsName name)

/-- A text with its braces doubled. -/
def doubled (s : List Char) : List Char := s.flatMap fun c => if c = '\x7b' ∨ c = '\x7d' then [c, c] else [c]

/-- How a part is written. -/
def Part.written : Part → List Char
  | text s => doubled s.toList
  | fact name _ => '\x7b' :: name.toList ++ ['\x7d']

/-- What a part stands for: a text for itself, the name of a fact for its value in running text. -/
def Part.shown (facts : Facts) : Part → Except Fault String
  | text s => .ok s
  | fact name _ =>
    match facts.lookup name with
    | some v => v.plain?
    | none => .error (.missingKey name)

/-- The template that is written from parts. -/
def template (parts : List Part) : String := String.ofList (parts.flatMap Part.written)

/-- What the parts stand for, in a row. -/
def spelled (facts : Facts) (parts : List Part) : Except Fault String :=
  (parts.mapM (Part.shown facts)).map String.join

theorem isName_of_isWord {name : String} (first : ∃ c, name.toList.head? = some c ∧ digitValue? c = none)
    (each : ∀ c ∈ name.toList, isWord c = true) : IsName name where
  first
  plain c mem sign := by
    have none : signs.all (fun c => !isWord c) = true := by decide
    exact absurd (each c mem) (by simpa using List.all_eq_true.1 none c sign)

variable {facts : Facts} {depth fuel : Nat} {name : String} {v : Value}

/-! ## Reading what is written -/

/-- Doubled braces and other characters are read as a literal, whatever follows. -/
theorem segmentsAfter_doubled (s text rest : List Char) :
    segmentsAfter (s.length + fuel) text (doubled s ++ rest) = segmentsAfter fuel (s.reverse ++ text) rest := by
  induction s generalizing text with
  | nil => rw [doubled, List.flatMap_nil, List.length_nil, Nat.zero_add]; rfl
  | cons c s ih =>
    have step : s.length + 1 + fuel = s.length + fuel + 1 := Nat.add_right_comm ..
    rw [List.length_cons, step, List.reverse_cons, List.append_assoc, List.singleton_append, ← ih (c :: text)]
    -- A brace and its double are one step of the reader, and so is any other character.
    by_cases brace : c = '{' ∨ c = '}'
    · rcases brace with rfl | rfl <;> rfl
    · have other : doubled (c :: s) = c :: doubled s := by rw [doubled, List.flatMap_cons, if_neg brace]; rfl
      rw [not_or] at brace
      rw [other, List.cons_append]
      simp [segmentsAfter, brace]

theorem length_le_doubled (s : List Char) : s.length ≤ (doubled s).length := by
  induction s with
  | nil => exact Nat.le_refl _
  | cons c s ih =>
    rw [doubled, List.flatMap_cons, List.length_append, List.length_cons, Nat.add_comm]
    refine Nat.add_le_add ?_ ih
    split
    · exact Nat.le_succ 1
    · exact Nat.le_refl 1

/-- A name is read up to the brace that closes its field. -/
theorem readName_plain {name : List Char} (plain : ∀ c ∈ name, c ∉ signs) (rest : List Char) :
    readName false (name ++ '}' :: rest) = .ok (name, '}' :: rest) := by
  induction name with
  | nil => rfl
  | cons c name ih =>
    obtain ⟨here, others⟩ := List.forall_mem_cons.1 plain
    simp only [signs, List.mem_cons, List.not_mem_nil, or_false, not_or] at here
    obtain ⟨opening, closing, bracket, -, colon, mark⟩ := here
    have outside : (c == '[') = false := beq_false_of_ne bracket
    rw [List.cons_append, readName, outside, ih others]
    simp [opening, closing, colon, mark]

theorem IsName.readField (h : IsName name) (rest : List Char) :
    readField (name.toList ++ '}' :: rest) = .ok (⟨name.toList, none, []⟩, rest) := by
  rw [Template.readField, readName_plain h.plain]
  rfl

/-- A name between braces is read as a field, and what stands before it as a literal. -/
theorem IsName.segmentsAfter (h : IsName name) (text rest : List Char) :
    segmentsAfter (fuel + 1) text (Part.written (.fact name h) ++ rest) =
      prepend text (.ok (.field ⟨name.toList, none, []⟩) :: segmentsAfter fuel [] rest) := by
  obtain ⟨c, head, -⟩ := h.first
  obtain ⟨rest', e⟩ := List.head?_eq_some_iff.1 head
  have other : c ≠ '{' := by
    rintro rfl
    exact h.plain _ (List.mem_of_head? head) (by decide)
  have read := h.readField rest
  rw [e, List.cons_append] at read
  have written : Part.written (.fact name h) ++ rest = '{' :: c :: (rest' ++ '}' :: rest) := by
    rw [Part.written, e]
    simp
  rw [written, Template.segmentsAfter]
  · simp only [read, e]
  · rintro s e
    exact other (List.cons.inj e).1
  · exact nofun

/-! ## Filling in -/

/-- The texts that the members of a list come to, in a row. -/
def joined {α : Type} (f : α → Except Fault (List Char)) (as : List α) : Except Fault (List Char) :=
  (as.mapM f).map List.flatten

theorem joined_cons {α : Type} (f : α → Except Fault (List Char)) (a : α) (as : List α) :
    joined f (a :: as) = f a >>= fun s => (joined f as).map (s ++ ·) := by
  rw [joined, joined, List.mapM_cons]
  cases f a with
  | error e => rfl
  | ok s => cases as.mapM f <;> rfl

theorem map_append_map (x : Except Fault (List Char)) (s t : List Char) :
    (x.map (t ++ ·)).map (s ++ ·) = x.map (s ++ t ++ ·) := by
  cases x with
  | error e => rfl
  | ok u => exact congrArg Except.ok (List.append_assoc ..).symm

/-- What a segment of a template comes to, if layouts may hold fields `depth` levels deep. -/
def fillSegment (facts : Facts) (depth : Nat) : Except Flaw Segment → Except Fault (List Char)
  | .error flaw => .error (.badValue flaw.message)
  | .ok (.literal s) => .ok s
  | .ok (.field f) => do
    let s ← convert (← lookUp facts f.name) f.conversion
    let layout ← if f.layout.contains '{' then fillAt facts depth f.layout else pure f.layout
    FieldLayout.apply layout s

theorem fillAt_succ (template : List Char) :
    fillAt facts (depth + 1) template = joined (fillSegment facts depth) (segments template) := by
  have bind_flatten (x : Except Fault (List (List Char))) :
      (x >>= fun parts => pure parts.flatten) = x.map List.flatten := by cases x <;> rfl
  rw [fillAt, joined, ← bind_flatten]
  refine congrArg (fun f => (segments template).mapM f >>= fun parts => pure parts.flatten) (funext fun part => ?_)
  rcases part with flaw | (s | f) <;> rfl

theorem joined_prepend (text : List Char) (segs : List (Except Flaw Segment)) :
    joined (fillSegment facts depth) (prepend text segs) =
      (joined (fillSegment facts depth) segs).map (text.reverse ++ ·) := by
  rw [prepend]
  split
  · rename_i empty
    obtain rfl := List.isEmpty_iff.1 empty
    cases joined (fillSegment facts depth) segs <;> rfl
  · exact joined_cons ..

/-- A name that does not start with a digit is no position. -/
theorem IsName.index? (h : IsName name) : index? name.toList = .ok none := by
  obtain ⟨c, head, letter⟩ := h.first
  obtain ⟨rest, e⟩ := List.head?_eq_some_iff.1 head
  have number : FieldLayout.readNumber (c :: rest) = .ok (none, c :: rest) := by
    simp [FieldLayout.readNumber, letter]
  rw [e, Template.index?, number]
  rfl

theorem IsName.lookUp (h : IsName name) :
    lookUp facts name.toList = match facts.lookup name with
      | some v => .ok (.value v)
      | none => .error (.missingKey name) := by
  obtain ⟨c, head, -⟩ := h.first
  have whole : name.toList.takeWhile (fun c => c != '.' && c != '[') = name.toList := by
    refine List.takeWhile_eq_self_iff.2 fun c mem => ?_
    have plain := h.plain c mem
    simp only [signs, List.mem_cons, List.not_mem_nil, or_false, not_or] at plain
    simp [plain]
  have nonempty : name.toList.isEmpty = false := by
    cases e : name.toList with
    | nil => simp [e] at head
    | cons c rest => rfl
  rw [Template.lookUp, whole, h.index?, ok_bind, nonempty]
  simp only [Option.isSome_none, Bool.or_self, Bool.false_eq_true, if_false, String.ofList_toList,
    List.drop_length]
  cases facts.lookup name with
  | none => rfl
  | some v => exact follow.eq_1 ..

/-- A value is written as in running text if nothing is said about how. -/
theorem apply_nil (v : Value) : FieldLayout.apply [] (.value v) = v.plain?.map String.toList := by
  have bind_toList (x : Except Fault String) : (x >>= fun s => pure s.toList) = x.map String.toList := by
    cases x <;> rfl
  cases v with
  | text s => rfl
  | _ => exact bind_toList _

/-- A field with the name of a fact comes to the value of the fact. -/
theorem IsName.fillSegment (h : IsName name) :
    fillSegment facts depth (.ok (.field ⟨name.toList, none, []⟩)) =
      (Part.shown facts (.fact name h)).map String.toList := by
  rw [Template.fillSegment, h.lookUp, Part.shown]
  cases facts.lookup name with
  | none => rfl
  | some v => exact apply_nil v

/-- The texts and the values stand in the row in which they are written. `text` (reversed) has been read as a
literal before. -/
theorem joined_segmentsAfter (parts : List Part) (text : List Char)
    (enough : (parts.flatMap Part.written).length ≤ fuel) :
    joined (fillSegment facts depth) (segmentsAfter fuel text (parts.flatMap Part.written)) =
      (joined (fun p => (Part.shown facts p).map String.toList) parts).map (text.reverse ++ ·) := by
  -- Texts in a row make one literal, so the induction carries along what has been read of it.
  induction parts generalizing text fuel with
  | nil =>
    have last : segmentsAfter fuel text [] = prepend text [] := by cases fuel <;> rfl
    rw [List.flatMap_nil, last, joined_prepend]
    rfl
  | cons p parts ih =>
    rw [List.flatMap_cons, List.length_append] at enough
    rw [List.flatMap_cons, joined_cons]
    cases p with
    | text s =>
      have short : s.toList.length ≤ fuel := (length_le_doubled _).trans (Nat.le_of_add_right_le enough)
      obtain ⟨fuel, rfl⟩ := Nat.exists_eq_add_of_le short
      have enough' : (parts.flatMap Part.written).length ≤ fuel := by
        have := length_le_doubled s.toList
        rw [Part.written] at enough
        omega
      rw [Part.written, segmentsAfter_doubled, ih _ enough', List.reverse_append, List.reverse_reverse,
        ← map_append_map]
      rfl
    | fact name h =>
      have long : 0 < (Part.written (.fact name h)).length := Nat.succ_pos _
      obtain ⟨fuel, rfl⟩ := Nat.exists_eq_add_of_lt (long.trans_le (Nat.le_of_add_right_le enough))
      rw [Nat.zero_add, h.segmentsAfter, joined_prepend, joined_cons, h.fillSegment, ih [] (by omega)]
      simp only [map_append_map, List.reverse_nil, List.append_nil]

theorem joined_toList {α : Type} (f : α → Except Fault String) (as : List α) :
    joined (fun a => (f a).map String.toList) as = (as.mapM f).map fun texts => (String.join texts).toList := by
  induction as with
  | nil => rfl
  | cons a as ih =>
    rw [joined_cons, ih, List.mapM_cons]
    cases f a with
    | error e => rfl
    | ok s =>
      cases as.mapM f with
      | error e => rfl
      | ok texts =>
        have joins : s.toList ++ (String.join texts).toList = (String.join (s :: texts)).toList := by
          rw [String.join_cons, String.toList_append]
        exact congrArg Except.ok joins

/-- A template that is written from parts is filled in with what they stand for, in a row. -/
theorem fill_template (facts : Facts) (parts : List Part) : fill facts (template parts) = spelled facts parts := by
  rw [fill, fillAt_succ, segments, template, String.toList_ofList,
    joined_segmentsAfter parts [] (Nat.le_succ _), joined_toList, spelled]
  cases parts.mapM (Part.shown facts) with
  | error e => rfl
  | ok texts => exact congrArg Except.ok String.ofList_toList

/-- A text with its braces doubled is filled in as the text. -/
theorem fill_doubled (facts : Facts) (s : String) : fill facts (String.ofList (doubled s.toList)) = .ok s := by
  have written : String.ofList (doubled s.toList) = template [.text s] := by
    rw [template, List.flatMap_singleton, Part.written]
  rw [written, fill_template]
  exact congrArg Except.ok String.empty_append

end Template

/-! ## Skip messages -/

namespace Rule

open Template (Part template spelled doubled)

/-- The rule does not apply to modules with these facts, and this is its skip message, or that of its group if
the group does not apply. -/
inductive Declines (r : Rule) (facts : Facts) : Value → Prop
  | group (fails : Condition.evaluate facts r.group.condition = .ok false) : Declines r facts r.group.skip
  | own (holds : Condition.evaluate facts r.group.condition = .ok true)
    (fails : Condition.evaluate facts r.condition = .ok false) : Declines r facts r.skip

variable {r : Rule} {facts : Facts} {skip : Value}

theorem Declines.skipReason_eq (h : r.Declines facts skip) :
    r.skipReason facts = (skipText facts skip).map some := by
  cases h with
  | group fails =>
    rw [skipReason, fails]
    rfl
  | own holds fails =>
    rw [skipReason, holds, fails]
    rfl

/-- If a rule does not apply, its skip message gives what the parts stand for from which it is written: texts as
they are, and the values of facts in running text. If all of the facts are there and can be written, these are the
values in a row with the texts. A text with its braces doubled comes back as it is. -/
theorem skipReason_faithful (r : Rule) (facts : Facts) :
    (∀ parts, r.Declines facts (.text (template parts)) →
      r.skipReason facts = (spelled facts parts).map some ∧
        ∀ shown, List.Forall₂ (fun part s => Part.shown facts part = .ok s) parts shown →
          r.skipReason facts = .ok (some (String.join shown))) ∧
      ∀ s, r.Declines facts (.text (String.ofList (doubled s.toList))) → r.skipReason facts = .ok (some s) := by
  refine ⟨fun parts declines => ?_, fun s declines => ?_⟩
  · have reason : r.skipReason facts = (spelled facts parts).map some := by
      rw [declines.skipReason_eq, skipText, Template.fill_template]
    refine ⟨reason, fun shown stand => ?_⟩
    rw [reason, spelled, mapM_eq_ok.2 stand]
    rfl
  · rw [declines.skipReason_eq, skipText, Template.fill_doubled]
    rfl

/-- Braces and other signs of templates next to fields, in the message of a rule; and a brace that is never
closed, in the message of a group. -/
theorem skipReason_faithful_braces :
    let facts : Facts := [("capability.source", .bool false), ("purpose", .text "\x7bx\x7d"), ("count", .int 2)]
    let purpose : Part := .fact "purpose" (Template.isName_of_isWord ⟨'p', rfl, rfl⟩ (List.all_eq_true.1 (by decide)))
    let count : Part := .fact "count" (Template.isName_of_isWord ⟨'c', rfl, rfl⟩ (List.all_eq_true.1 (by decide)))
    let parts : List Part := [.text "\x7b", purpose, count, .text "!r\x7d: ["]
    let forReaders : Value := .map [
      (.text "fact", .text "capability.source"), (.text "op", .text "eq"), (.text "value", .bool true)]
    let check : RuleCheck := fun _ _ => return .verdict (.ok "fine")
    let rule : Rule := {
      id := "CHK-901"
      title := .null
      group := { id := .null, number := 9, title := .null }
      level := .error
      check
      condition := forReaders
      skip := .text (template parts) }
    let other : Rule := { rule with
      group := { rule.group with
        condition := forReaders, skip := .text (String.ofList (doubled "a \x7b".toList)) } }
    rule.Declines facts (.text (template parts)) ∧
      List.Forall₂ (fun part s => Part.shown facts part = .ok s) parts
        ["\x7b", "\x7bx\x7d", "2", "!r\x7d: ["] ∧
      rule.skipReason facts = .ok (some "\x7b\x7bx\x7d2!r\x7d: [") ∧
      other.Declines facts (.text (String.ofList (doubled "a \x7b".toList))) ∧
      other.skipReason facts = .ok (some "a \x7b") := by
  intro facts purpose count parts forReaders check rule other
  have holds : Condition.evaluate facts .null = .ok true := by rw [Condition.evaluate]
  have fails : Condition.evaluate facts forReaders = .ok false := by decide +kernel
  have declines : rule.Declines facts (.text (template parts)) := .own holds fails
  have declines' : other.Declines facts (.text (String.ofList (doubled "a \x7b".toList))) := .group fails
  have shown : List.Forall₂ (fun part s => Part.shown facts part = .ok s) parts
      ["\x7b", "\x7bx\x7d", "2", "!r\x7d: ["] :=
    .cons rfl (.cons (by decide +kernel) (.cons (by decide +kernel) (.cons rfl .nil)))
  exact ⟨declines, shown, ((skipReason_faithful rule facts).1 parts declines).2 _ shown, declines',
    (skipReason_faithful other facts).2 _ declines'⟩

end Rule

end ModuleAudit
