import ModuleAudit.Json.Reading
import Mathlib.Data.List.Basic

/-!
# The grammar of JSON

`Spells` tells which texts spell a document: the names, whole numbers, strings with any escapes, arrays and
objects with any blanks between their parts. Numbers with a fraction or an exponent are left out.

* `readStringAfter_chars`, `readMagnitude?_whole`: strings and numbers are read as what they spell;
* `readItems?_joined`, `readMembers?_joined`: so are the parts of arrays and objects, if each part is;
* `Spells.reads`, `parse?_of_spells`: so is each text that spells a document. A text spells one document
  only.
-/

namespace ModuleAudit.Json

/-! ## The grammar -/

/-- Blanks between the parts of a document. -/
def Gap (t : List Char) : Prop := ∀ c ∈ t, isGap c = true

/-- A text inside a string spells a character: the character itself, a short escape, a unit of 16 bits,
or the two halves of a character in two of them. -/
inductive SpellsChar : List Char → Char → Prop
  | plain {c : Char} (visible : 0x20 ≤ c.toNat) (quote : c ≠ '"') (backslash : c ≠ '\\') : SpellsChar [c] c
  | short {e c : Char} (escape : shortEscape? e = some c) : SpellsChar ['\\', e] c
  | unit {a b c d : Char} {n : Nat} (spelled : unit? a b c d = some n) (whole : n < 0xd800 ∨ 0xe000 ≤ n) :
      SpellsChar ['\\', 'u', a, b, c, d] (Char.ofNat n)
  | pair {a b c d a' b' c' d' : Char} {high low : Nat} (first : unit? a b c d = some high)
      (second : unit? a' b' c' d' = some low) (upper : 0xd800 ≤ high ∧ high < 0xdc00)
      (lower : 0xdc00 ≤ low ∧ low < 0xe000) :
      SpellsChar ['\\', 'u', a, b, c, d, '\\', 'u', a', b', c', d']
        (Char.ofNat (0x10000 + (high - 0xd800) * 0x400 + (low - 0xdc00)))

/-- A text inside a string spells some characters. -/
inductive SpellsChars : List Char → List Char → Prop
  | nil : SpellsChars [] []
  | cons {t ts cs : List Char} {c : Char} (first : SpellsChar t c) (others : SpellsChars ts cs) :
      SpellsChars (t ++ ts) (c :: cs)

/-- Digits of a whole number, without zeros in front. -/
structure IsWhole (ds : List Char) : Prop where
  nonempty : ds ≠ []
  digits : ∀ c ∈ ds, c.isDigit = true
  leading : 1 < ds.length → ds.head? ≠ some '0'

/-- The parts of an array or an object with commas between them and blanks around them. -/
inductive Joined : List (List Char) → List Char → Prop
  | none {gap : List Char} (h : Gap gap) : Joined [] gap
  | one {before t after : List Char} (hb : Gap before) (ha : Gap after) : Joined [t] (before ++ t ++ after)
  | more {before t after next text : List Char} {others : List (List Char)} (hb : Gap before)
      (ha : Gap after) (rest : Joined (next :: others) text) :
      Joined (t :: next :: others) (before ++ t ++ after ++ ',' :: text)

/-- A member of an object, with its texts. -/
structure Member where
  key : String
  value : Json
  keyText : List Char
  before : List Char
  after : List Char
  valueText : List Char

/-- The text of a member. -/
def Member.text (m : Member) : List Char :=
  '"' :: m.keyText ++ '"' :: m.before ++ ':' :: m.after ++ m.valueText

/-- A text spells a document. -/
inductive Spells : List Char → Json → Prop
  | null : Spells ['n', 'u', 'l', 'l'] .null
  | true : Spells ['t', 'r', 'u', 'e'] (.bool Bool.true)
  | false : Spells ['f', 'a', 'l', 's', 'e'] (.bool Bool.false)
  | natural {ds : List Char} (h : IsWhole ds) : Spells ds (.int (digitsValue ds))
  | negative {ds : List Char} (h : IsWhole ds) : Spells ('-' :: ds) (.int (-digitsValue ds))
  | string {t : List Char} {s : String} (h : SpellsChars t s.toList) : Spells ('"' :: t ++ ['"']) (.string s)
  | array {parts : List (List Char × Json)} {text : List Char} (items : ∀ p ∈ parts, Spells p.1 p.2)
      (joined : Joined (parts.map Prod.fst) text) :
      Spells ('[' :: text ++ [']']) (.array (parts.map Prod.snd))
  | object {parts : List Member} {text : List Char} (keys : ∀ m ∈ parts, SpellsChars m.keyText m.key.toList)
      (gaps : ∀ m ∈ parts, Gap m.before ∧ Gap m.after) (values : ∀ m ∈ parts, Spells m.valueText m.value)
      (joined : Joined (parts.map Member.text) text) :
      Spells ('\x7b' :: text ++ ['\x7d']) (.object (parts.map fun m => (m.key, m.value)))

/-! ## Blanks -/

variable {t rest : List Char} {j : Json}

theorem skipGap_append (h : Gap t) (rest : List Char) : skipGap (t ++ rest) = skipGap rest :=
  List.dropWhile_append_of_pos h

theorem skipGap_cons {c : Char} (h : isGap c = false) (rest : List Char) :
    skipGap (c :: rest) = c :: rest := by
  rw [skipGap, List.dropWhile_cons, if_neg (Bool.eq_false_iff.1 h)]

/-- What may stand behind a document. -/
def Ends (rest : List Char) : Prop :=
  ∀ c ∈ rest.head?, isGap c = true ∨ c = ',' ∨ c = ']' ∨ c = '\x7d'

/-! ## Strings -/

theorem readStringAfter_spells {t : List Char} {c : Char} (h : SpellsChar t c) (rest : List Char) :
    readStringAfter none (t ++ rest) = (readStringAfter none rest).map fun (s, r) => (c :: s, r) := by
  cases h with
  | @plain c visible quote backslash =>
    have low : ¬ c.toNat < 0x20 := Nat.not_lt.2 visible
    rw [List.singleton_append, readStringAfter.eq_def]
    split
    · simp_all
    · simp_all
    · simp_all
    next c' rest' _ _ _ e =>
      obtain ⟨rfl, rfl⟩ := List.cons.inj e
      simp [low, backslash]
    · simp_all
  | @short e c escape =>
    have other : e ≠ 'u' := fun same => by simp [same, shortEscape?] at escape
    simp [readStringAfter, escape, other]
  | @unit a b c d n spelled whole =>
    have high : ¬ (0xd800 ≤ n ∧ n < 0xdc00) := by omega
    have low : ¬ (0xdc00 ≤ n ∧ n < 0xe000) := by omega
    simp [readStringAfter, spelled, high, low]
  | pair first second upper lower =>
    simp [readStringAfter, first, second, upper, lower]

/-- A string is read to its closing quote. -/
theorem readStringAfter_chars {t cs : List Char} (h : SpellsChars t cs) (rest : List Char) :
    readStringAfter none (t ++ '"' :: rest) = some (cs, rest) := by
  induction h with
  | nil => rfl
  | cons first _ ih => rw [List.append_assoc, readStringAfter_spells first, ih]; rfl

theorem readString?_spells {t : List Char} {s : String} (h : SpellsChars t s.toList) (rest : List Char) :
    readString? (t ++ '"' :: rest) = some (s, rest) := by
  rw [readString?, readStringAfter_chars h]
  exact congrArg (fun s => some (s, rest)) String.ofList_toList

/-! ## Whole numbers -/

theorem Ends.not_digit (h : Ends rest) {c : Char} (hc : c ∈ rest.head?) :
    c.isDigit = false ∧ c ≠ '.' ∧ c ≠ 'e' ∧ c ≠ 'E' := by
  have gaps : ∀ c, isGap c = true → c = ' ' ∨ c = '\n' ∨ c = '\r' ∨ c = '\t' := by
    simp [isGap, or_assoc]
  rcases h c hc with gap | rfl | rfl | rfl
  · rcases gaps c gap with rfl | rfl | rfl | rfl <;> decide
  all_goals decide

theorem readExponent_ends (h : Ends rest) : readExponent rest = (none, rest) := by
  cases rest with
  | nil => rfl
  | cons c rest =>
    obtain ⟨-, -, small, big⟩ := h.not_digit rfl
    simp [readExponent, small, big]

theorem readFraction_ends (h : Ends rest) : readFraction rest = ([], rest) := by
  cases rest with
  | nil => rfl
  | cons c rest =>
    obtain ⟨-, point, -⟩ := h.not_digit rfl
    simp [readFraction, point]

theorem readMagnitude?_whole {ds : List Char} (h : IsWhole ds) (ends : Ends rest) (negative : Bool) :
    readMagnitude? negative (ds ++ rest) =
      some (.int (if negative then -digitsValue ds else digitsValue ds), rest) := by
  have digits : (ds ++ rest).takeWhile Char.isDigit = ds := by
    rw [List.takeWhile_append_of_pos h.digits]
    cases rest with
    | nil => simp
    | cons c rest => simp [(ends.not_digit rfl).1]
  have other : (ds.isEmpty || (decide (ds.length > 1) && ds.head? == some '0')) = false := by
    rw [Bool.or_eq_false_iff, Bool.and_eq_false_iff, List.isEmpty_eq_false_iff]
    refine ⟨h.nonempty, ?_⟩
    by_cases long : 1 < ds.length
    · exact .inr (beq_eq_false_iff_ne.2 (h.leading long))
    · exact .inl (decide_eq_false long)
  rw [readMagnitude?, digits, List.drop_left, readFraction_ends ends]
  dsimp only
  rw [readExponent_ends ends, other, if_neg Bool.false_ne_true]

/-! ## Documents -/

/-- A text of a document is read as that document, whatever follows. -/
def Reads (t : List Char) (j : Json) : Prop :=
  ∀ fuel rest, t.length < fuel → Ends rest → readAt? fuel (t ++ rest) = some (j, rest)

/-- The text begins with a character that begins a document. -/
def Begins (t : List Char) : Prop :=
  ∃ c rest, t = c :: rest ∧ isGap c = false ∧ c ≠ ']' ∧ c ≠ '\x7d'

theorem IsWhole.head {ds : List Char} (h : IsWhole ds) : ∃ c rest, ds = c :: rest ∧ c.isDigit = true := by
  cases ds with
  | nil => exact absurd rfl h.nonempty
  | cons c rest => exact ⟨c, rest, rfl, h.digits c List.mem_cons_self⟩

theorem isGap_of_isDigit {c : Char} (h : c.isDigit = true) :
    isGap c = false ∧ c ≠ ']' ∧ c ≠ '\x7d' ∧ c ≠ '[' ∧ c ≠ '\x7b' ∧ c ≠ '"' ∧ c ≠ '-' := by
  have other {d : Char} (hd : d.isDigit = false) : c ≠ d := fun e => by simp [e, hd] at h
  refine ⟨?_, other rfl, other rfl, other rfl, other rfl, other rfl, other rfl⟩
  simp [isGap, other (d := ' ') rfl, other (d := '\n') rfl, other (d := '\r') rfl, other (d := '\t') rfl]

theorem Spells.begins (h : Spells t j) : Begins t := by
  cases h with
  | natural h =>
    obtain ⟨c, rest, rfl, digit⟩ := h.head
    obtain ⟨gap, bracket, brace, -⟩ := isGap_of_isDigit digit
    exact ⟨c, rest, rfl, gap, bracket, brace⟩
  | _ => exact ⟨_, _, rfl, by decide, by decide, by decide⟩

theorem readAt?_gap (h : Gap t) (fuel : Nat) (rest : List Char) :
    readAt? fuel (t ++ rest) = readAt? fuel rest := by
  rw [readAt?.eq_def, readAt?.eq_def, skipGap_append h]

theorem readAt?_atom {c : Char} (gap : isGap c = false) (bracket : c ≠ '[') (brace : c ≠ '\x7b') (fuel : Nat)
    (rest : List Char) : readAt? (fuel + 1) (c :: rest) = readAtom? (c :: rest) := by
  rw [readAt?.eq_def, skipGap_cons gap]
  simp [bracket, brace]

theorem find?_names_digit {c : Char} (digit : c.isDigit = true) (s : List Char) :
    names.find? (fun (name, _) => name.isPrefixOf (c :: s)) = none ∧
      names.find? (fun (name, _) => name.isPrefixOf ('-' :: c :: s)) = none := by
  have other {d : Char} (hd : d.isDigit = false) : (d == c) = false :=
    beq_eq_false_iff_ne.2 fun e => by simp [← e, hd] at digit
  constructor
  · simp [names, List.find?, List.isPrefixOf, other (d := 'n') rfl, other (d := 't') rfl,
      other (d := 'f') rfl, other (d := 'N') rfl, other (d := 'I') rfl, other (d := '-') rfl]
  · simp [names, List.find?, List.isPrefixOf, other (d := 'I') rfl]

theorem readAtom?_digits {ds : List Char} (h : IsWhole ds) (ends : Ends rest) :
    readAtom? (ds ++ rest) = some (.int (digitsValue ds), rest) ∧
      readAtom? ('-' :: ds ++ rest) = some (.int (-digitsValue ds), rest) := by
  obtain ⟨c, behind, rfl, digit⟩ := h.head
  obtain ⟨named, named'⟩ := find?_names_digit digit (behind ++ rest)
  obtain ⟨-, -, -, -, -, quote, minus⟩ := isGap_of_isDigit digit
  constructor
  · unfold readAtom?
    rw [List.cons_append, named]
    dsimp only
    split
    next e => exact absurd (List.cons.inj e).1 quote
    next e => exact absurd (List.cons.inj e).1 minus
    next => exact readMagnitude?_whole h ends false
  · unfold readAtom?
    rw [List.cons_append, List.cons_append, named']
    exact readMagnitude?_whole h ends true

theorem find?_names_quote (s : List Char) :
    names.find? (fun (name, _) => name.isPrefixOf ('"' :: s)) = none := by
  simp [names, List.find?, List.isPrefixOf]

theorem readAtom?_string {t : List Char} {s : String} (h : SpellsChars t s.toList) (rest : List Char) :
    readAtom? ('"' :: t ++ '"' :: rest) = some (.string s, rest) := by
  unfold readAtom?
  rw [List.cons_append, find?_names_quote]
  exact congrArg (Option.map fun p => (Json.string p.1, p.2)) (readString?_spells h rest)

/-! ### Arrays -/

theorem ends_append {gap : List Char} (h : Gap gap) {c : Char} (hc : c = ',' ∨ c = ']' ∨ c = '\x7d')
    (rest : List Char) : Ends (gap ++ c :: rest) := by
  cases gap with
  | nil => exact fun d hd => .inr (Option.some.inj hd ▸ hc)
  | cons g gap => exact fun d hd => .inl (Option.some.inj hd ▸ h g List.mem_cons_self)

theorem readItems?_joined {parts : List (List Char × Json)} (read : ∀ p ∈ parts, Reads p.1 p.2)
    {texts : List (List Char)} (hts : parts.map Prod.fst = texts) {text : List Char}
    (joined : Joined texts text) (some : texts ≠ []) {fuel : Nat} (rest : List Char)
    (enough : text.length + 1 < fuel) :
    readItems? fuel (text ++ ']' :: rest) = .some (parts.map Prod.snd, rest) := by
  induction joined generalizing parts fuel with
  | none => exact absurd rfl some
  | @one before _ after hb ha =>
    obtain ⟨⟨t, x⟩, hp, rfl⟩ := List.map_eq_singleton_iff.1 hts
    subst hp
    obtain ⟨fuel, rfl⟩ : ∃ f, fuel = f + 1 := ⟨fuel - 1, by omega⟩
    simp only [List.length_append] at enough
    have short : t.length < fuel := by omega
    have here : readAt? fuel (before ++ t ++ after ++ ']' :: rest) = .some (x, after ++ ']' :: rest) := by
      rw [List.append_assoc, List.append_assoc, readAt?_gap hb]
      exact read _ List.mem_cons_self fuel _ short (ends_append ha (by simp) rest)
    rw [readItems?, here]
    dsimp only
    rw [skipGap_append ha, skipGap_cons rfl]
    rfl
  | @more before _ after next text others hb ha joined ih =>
    obtain ⟨⟨t, x⟩, parts, rfl, rfl, more⟩ := List.map_eq_cons_iff.1 hts
    obtain ⟨first, others⟩ := List.forall_mem_cons.1 read
    obtain ⟨fuel, rfl⟩ : ∃ f, fuel = f + 1 := ⟨fuel - 1, by omega⟩
    simp only [List.length_append, List.length_cons] at enough
    have short : t.length < fuel := by omega
    have here : readAt? fuel (before ++ t ++ after ++ ',' :: text ++ ']' :: rest) =
        .some (x, after ++ ',' :: (text ++ ']' :: rest)) := by
      simp only [List.append_assoc, List.cons_append]
      rw [readAt?_gap hb]
      exact first fuel _ short (ends_append ha (by simp) _)
    rw [readItems?, here]
    dsimp only
    rw [skipGap_append ha, skipGap_cons rfl]
    have behind : readItems? fuel (text ++ ']' :: rest) = .some (parts.map Prod.snd, rest) :=
      ih others more (List.cons_ne_nil _ _) (by omega)
    simp only [behind]
    rfl

/-! ### Objects -/

/-- A member is read as its key and its value. -/
structure Member.Read (m : Member) : Prop where
  key : SpellsChars m.keyText m.key.toList
  before : Gap m.before
  after : Gap m.after
  value : Reads m.valueText m.value

/-- Blanks and a member, and what decides whether another one follows. -/
theorem readMembers?_member {m : Member} (h : m.Read) {gap : List Char} (hg : Gap gap) {fuel : Nat}
    (enough : m.text.length < fuel) {rest : List Char} (ends : Ends rest) :
    readMembers? (fuel + 1) (gap ++ (m.text ++ rest)) =
      match skipGap rest with
      | ',' :: rest => (readMembers? fuel rest).map fun (ms, rest) => ((m.key, m.value) :: ms, rest)
      | '\x7d' :: rest => some ([(m.key, m.value)], rest)
      | _ => none := by
  have text : m.text ++ rest =
      '"' :: (m.keyText ++ '"' :: (m.before ++ ':' :: (m.after ++ (m.valueText ++ rest)))) := by
    simp [Member.text]
  have short : m.valueText.length < fuel := by
    simp only [Member.text, List.length_cons, List.length_append] at enough
    omega
  rw [readMembers?.eq_def, text, skipGap_append hg, skipGap_cons rfl]
  have colon (behind : List Char) : skipGap (m.before ++ ':' :: behind) = ':' :: behind := by
    rw [skipGap_append h.before, skipGap_cons rfl]
  simp only [readString?_spells h.key, colon]
  have value : readAt? fuel (m.after ++ (m.valueText ++ rest)) = some (m.value, rest) := by
    rw [readAt?_gap h.after, h.value fuel rest short ends]
  generalize readAt? fuel (m.after ++ (m.valueText ++ rest)) = answer at value
  subst value
  rfl

theorem readMembers?_joined {parts : List Member} (read : ∀ m ∈ parts, m.Read)
    {texts : List (List Char)} (hts : parts.map Member.text = texts) {text : List Char}
    (joined : Joined texts text) (some : texts ≠ []) {fuel : Nat} (rest : List Char)
    (enough : text.length + 1 < fuel) :
    readMembers? fuel (text ++ '\x7d' :: rest) =
      .some (parts.map fun m => (m.key, m.value), rest) := by
  induction joined generalizing parts fuel with
  | none => exact absurd rfl some
  | @one before _ after hb ha =>
    obtain ⟨m, rfl, rfl⟩ := List.map_eq_singleton_iff.1 hts
    obtain ⟨fuel, rfl⟩ : ∃ f, fuel = f + 1 := ⟨fuel - 1, by omega⟩
    simp only [List.length_append] at enough
    rw [List.append_assoc, List.append_assoc, readMembers?_member (read m List.mem_cons_self) hb (by omega)
      (ends_append ha (by simp) rest), skipGap_append ha, skipGap_cons rfl]
    rfl
  | @more before _ after next text others hb ha joined ih =>
    obtain ⟨m, parts, rfl, rfl, more⟩ := List.map_eq_cons_iff.1 hts
    obtain ⟨first, others⟩ := List.forall_mem_cons.1 read
    obtain ⟨fuel, rfl⟩ : ∃ f, fuel = f + 1 := ⟨fuel - 1, by omega⟩
    simp only [List.length_append, List.length_cons] at enough
    simp only [List.append_assoc, List.cons_append]
    rw [readMembers?_member first hb (by omega) (ends_append ha (by simp) _), skipGap_append ha,
      skipGap_cons rfl]
    have behind : readMembers? fuel (text ++ '\x7d' :: rest) =
        .some (parts.map fun m => (m.key, m.value), rest) :=
      ih others more (List.cons_ne_nil _ _) (by omega)
    simp only [behind]
    rfl

/-! ### All documents -/

theorem Begins.skipGap {t : List Char} (h : Begins t) {gap : List Char} (hg : Gap gap) (rest : List Char) :
    ∃ c behind, skipGap (gap ++ (t ++ rest)) = c :: behind ∧ c ≠ ']' ∧ c ≠ '\x7d' := by
  obtain ⟨c, behind, rfl, solid, bracket, brace⟩ := h
  exact ⟨c, behind ++ rest, by rw [skipGap_append hg, List.cons_append, skipGap_cons solid], bracket, brace⟩

/-- Where there are parts, no closing bracket or brace comes first. -/
theorem Joined.begins {texts : List (List Char)} {text : List Char} (joined : Joined texts text)
    (some : texts ≠ []) (begins : ∀ t ∈ texts, Begins t) (rest : List Char) :
    ∃ c behind, skipGap (text ++ rest) = c :: behind ∧ c ≠ ']' ∧ c ≠ '\x7d' := by
  cases joined with
  | none => exact absurd rfl some
  | one hb ha =>
    rw [List.append_assoc, List.append_assoc]
    exact (begins _ List.mem_cons_self).skipGap hb _
  | more hb ha =>
    simp only [List.append_assoc]
    exact (begins _ List.mem_cons_self).skipGap hb _

theorem Member.text_begins (m : Member) : Begins m.text := ⟨'"', _, rfl, by decide, by decide, by decide⟩

theorem readAt?_array (fuel : Nat) (s : List Char) :
    readAt? (fuel + 1) ('[' :: s) =
      match skipGap s with
      | ']' :: rest => some (.array [], rest)
      | _ => (readItems? fuel s).map fun (xs, rest) => (.array xs, rest) := by
  rw [readAt?.eq_def, skipGap_cons rfl]
  rfl

theorem readAt?_object (fuel : Nat) (s : List Char) :
    readAt? (fuel + 1) ('\x7b' :: s) =
      match skipGap s with
      | '\x7d' :: rest => some (.object [], rest)
      | _ => (readMembers? fuel s).map fun (ms, rest) => (.object ms, rest) := by
  rw [readAt?.eq_def, skipGap_cons rfl]
  rfl

/-- Each text that spells a document is read as this document. -/
theorem Spells.reads (h : Spells t j) : Reads t j := by
  intro fuel rest enough ends
  obtain ⟨fuel, rfl⟩ : ∃ f, fuel = f + 1 := ⟨fuel - 1, by omega⟩
  induction h generalizing fuel rest with
  | null | true | false =>
    rw [List.cons_append, readAt?_atom rfl (by decide) (by decide)]
    simp [readAtom?, names, List.find?, List.isPrefixOf]
  | natural h =>
    obtain ⟨c, behind, rfl, digit⟩ := h.head
    obtain ⟨gap, -, -, bracket, brace, -⟩ := isGap_of_isDigit digit
    rw [List.cons_append, readAt?_atom gap bracket brace]
    exact (readAtom?_digits h ends).1
  | negative h =>
    rw [List.cons_append, readAt?_atom rfl (by decide) (by decide)]
    exact (readAtom?_digits h ends).2
  | string h =>
    rw [List.append_assoc, List.cons_append, readAt?_atom rfl (by decide) (by decide)]
    exact readAtom?_string h rest
  | @array parts text items joined ih =>
    have read : ∀ p ∈ parts, Reads p.1 p.2 := fun p mem fuel rest enough ends => by
      obtain ⟨fuel, rfl⟩ : ∃ f, fuel = f + 1 := ⟨fuel - 1, by omega⟩
      exact ih p mem rest ends fuel enough
    simp only [List.length_append, List.length_cons, List.length_nil] at enough
    rw [List.append_assoc, List.cons_append, readAt?_array, List.singleton_append]
    by_cases some : parts.map Prod.fst = []
    · obtain rfl := List.map_eq_nil_iff.1 some
      cases joined with
      | none gap => rw [skipGap_append gap, skipGap_cons rfl]; rfl
    · obtain ⟨c, behind, front, bracket, -⟩ := joined.begins some
        (List.forall_mem_map.2 fun p mem => (items p mem).begins) (']' :: rest)
      have inside : readItems? fuel (text ++ ']' :: rest) = .some (parts.map Prod.snd, rest) :=
        readItems?_joined read rfl joined some rest (by omega)
      rw [front, inside]
      split
      next e => exact absurd (List.cons.inj e).1 bracket
      · rfl
  | @object parts text keys gaps values joined ih =>
    have read : ∀ m ∈ parts, m.Read := fun m mem =>
      { key := keys m mem
        before := (gaps m mem).1
        after := (gaps m mem).2
        value := fun fuel rest enough ends => by
          obtain ⟨fuel, rfl⟩ : ∃ f, fuel = f + 1 := ⟨fuel - 1, by omega⟩
          exact ih m mem rest ends fuel enough }
    simp only [List.length_append, List.length_cons, List.length_nil] at enough
    rw [List.append_assoc, List.cons_append, readAt?_object, List.singleton_append]
    by_cases some : parts.map Member.text = []
    · obtain rfl := List.map_eq_nil_iff.1 some
      cases joined with
      | none gap => rw [skipGap_append gap, skipGap_cons rfl]; rfl
    · obtain ⟨c, behind, front, -, brace⟩ := joined.begins some
        (List.forall_mem_map.2 fun m _ => m.text_begins) ('\x7d' :: rest)
      have inside : readMembers? fuel (text ++ '\x7d' :: rest) =
          .some (parts.map fun m => (m.key, m.value), rest) :=
        readMembers?_joined read rfl joined some rest (by omega)
      rw [front, inside]
      split
      next e => exact absurd (List.cons.inj e).1 brace
      · rfl

/-- A whole text, with blanks around the document. -/
def SpellsText (text : List Char) (j : Json) : Prop :=
  ∃ before t after, text = before ++ t ++ after ∧ Gap before ∧ Spells t j ∧ Gap after

/-- A text that spells a document is parsed as this document. -/
theorem parse?_of_spells {text : String} (h : SpellsText text.toList j) : parse? text = some j := by
  obtain ⟨before, t, after, e, hb, spelled, ha⟩ := h
  have ends : Ends after := fun c hc => .inl (ha c (List.mem_of_mem_head? hc))
  have enough : t.length < text.toList.length + 1 := by
    rw [e, List.length_append, List.length_append]
    omega
  have all : skipGap after = [] := (List.append_nil after ▸ skipGap_append ha [])
  have read : readAt? (text.toList.length + 1) text.toList = some (j, after) := by
    generalize text.toList.length + 1 = fuel at enough
    rw [e, List.append_assoc, readAt?_gap hb]
    exact spelled.reads fuel after enough ends
  rw [parse?]
  simp [read, all]

theorem SpellsText.unique {text : List Char} {j j' : Json} (h : SpellsText text j)
    (h' : SpellsText text j') : j = j' := by
  rw [← String.toList_ofList (l := text)] at h h'
  exact Option.some.inj ((parse?_of_spells h).symm.trans (parse?_of_spells h'))

end ModuleAudit.Json
