import ModuleAudit.Json.Text
import ModuleAudit.Proofs.Json.Grammar

/-!
# What the writer writes

The indented text of a document spells the document (`indented_spells`) in ASCII characters
(`indented_ascii`), so it is parsed as the document again (`parse?_indented`).
-/

namespace ModuleAudit.Json

open ModuleAudit.Text (hexDigits)

/-! ## Characters -/

theorem hexValue?_digitChar {d : Nat} (h : d < 16) : hexValue? (Nat.digitChar d) = some d := by
  have each : ∀ d < 16, hexValue? (Nat.digitChar d) = some d := by decide
  exact each d h

/-- The escape of a unit spells the unit. -/
theorem unit?_hexDigits {n : Nat} (h : n < 0x10000) :
    unit? (Nat.digitChar (n / 16 / 16 / 16 % 16)) (Nat.digitChar (n / 16 / 16 % 16))
      (Nat.digitChar (n / 16 % 16)) (Nat.digitChar (n % 16)) = some n := by
  have small (m : Nat) : m % 16 < 16 := Nat.mod_lt m (by decide)
  rw [unit?, hexValue?_digitChar (small _), hexValue?_digitChar (small _), hexValue?_digitChar (small _),
    hexValue?_digitChar (small _)]
  simp only [Option.bind_eq_bind, Option.bind_some, pure, Option.some.injEq]
  omega

/-- A character is one unit of 16 bits that is no half of another character, or lies beyond them. -/
theorem toNat_cases (c : Char) : (c.toNat < 0xd800 ∨ 0xe000 ≤ c.toNat) ∧ c.toNat < 0x110000 := by
  have valid : c.toNat.isValidChar := c.valid
  unfold Nat.isValidChar at valid
  omega

theorem escapeChar_spells (c : Char) : SpellsChar (escapeChar c) c := by
  obtain ⟨whole, bound⟩ := toNat_cases c
  unfold escapeChar
  split_ifs with quote backslash newline ret tab back feed visible unit
  · obtain rfl := beq_iff_eq.1 quote
    exact .short rfl
  · obtain rfl := beq_iff_eq.1 backslash
    exact .short rfl
  · obtain rfl := beq_iff_eq.1 newline
    exact .short rfl
  · obtain rfl := beq_iff_eq.1 ret
    exact .short rfl
  · obtain rfl := beq_iff_eq.1 tab
    exact .short rfl
  · obtain rfl := beq_iff_eq.1 back
    exact .short rfl
  · obtain rfl := beq_iff_eq.1 feed
    exact .short rfl
  · rw [Bool.and_eq_true, decide_eq_true_iff] at visible
    exact .plain visible.1 (fun e => quote (beq_iff_eq.2 e)) (fun e => backslash (beq_iff_eq.2 e))
  · have spelled := SpellsChar.unit (unit?_hexDigits unit) whole
    rw [Char.ofNat_toNat] at spelled
    exact spelled
  · -- The two halves are put together to what they were taken from.
    have high : 0xd800 ≤ 0xd800 + (c.toNat - 0x10000) / 0x400 ∧
        0xd800 + (c.toNat - 0x10000) / 0x400 < 0xdc00 := by omega
    have low : 0xdc00 ≤ 0xdc00 + (c.toNat - 0x10000) % 0x400 ∧
        0xdc00 + (c.toNat - 0x10000) % 0x400 < 0xe000 := by omega
    have joined : 0x10000 + (0xd800 + (c.toNat - 0x10000) / 0x400 - 0xd800) * 0x400 +
        (0xdc00 + (c.toNat - 0x10000) % 0x400 - 0xdc00) = c.toNat := by omega
    have spelled := SpellsChar.pair (unit?_hexDigits (by omega)) (unit?_hexDigits (by omega)) high low
    rw [joined, Char.ofNat_toNat] at spelled
    exact spelled

theorem escaped_spells (cs : List Char) : SpellsChars (cs.flatMap escapeChar) cs := by
  induction cs with
  | nil => exact .nil
  | cons c cs ih => exact .cons (escapeChar_spells c) ih

example : quoted "\x01é🙂" = "\"\\u0001\\u00e9\\ud83d\\ude42\"".toList := by decide

/-! ## Whole numbers -/

theorem digitsValue_eq (ds : List Char) : digitsValue ds = Nat.ofDigitChars 10 ds 0 := by
  have step : (fun n (c : Char) => n * 10 + (c.toNat - '0'.toNat)) =
      fun n c => 10 * n + (c.toNat - '0'.toNat) := by
    funext n c
    rw [Nat.mul_comm]
  rw [digitsValue, Nat.ofDigitChars_eq_foldl, step]

theorem digitsValue_toDigits (n : Nat) : digitsValue (Nat.toDigits 10 n) = n := by
  rw [digitsValue_eq, Nat.ofDigitChars_toDigits (by decide) (by decide)]

theorem head?_toDigits {n : Nat} (h : n ≠ 0) : (Nat.toDigits 10 n).head? ≠ some '0' := by
  induction n using Nat.strongRecOn with
  | ind n ih =>
    by_cases small : n < 10
    · rw [Nat.toDigits_of_lt_base small]
      have each : ∀ d < 10, d ≠ 0 → [Nat.digitChar d].head? ≠ some '0' := by decide
      exact each n small h
    · have shorter := ih (n / 10) (by omega) (by omega)
      rw [Nat.toDigits_of_base_le (by decide) (by omega)]
      rwa [List.head?_append_of_ne_nil _ Nat.toDigits_ne_nil]

theorem toDigits_isWhole (n : Nat) : IsWhole (Nat.toDigits 10 n) where
  nonempty := Nat.toDigits_ne_nil
  digits := fun _ mem => Nat.isDigit_of_mem_toDigits (by decide) (by decide) mem
  leading := fun long => head?_toDigits fun zero => by simp [zero] at long

/-- The text of a whole number is its digits, with a minus in front of them below zero. -/
theorem intText_cases (n : Int) : ∃ ds, IsWhole ds ∧
    ((toString n).toList = ds ∧ n = digitsValue ds ∨
      (toString n).toList = '-' :: ds ∧ n = -digitsValue ds) := by
  cases n with
  | ofNat n =>
    refine ⟨_, toDigits_isWhole n, .inl ⟨Nat.toList_repr, ?_⟩⟩
    rw [digitsValue_toDigits]
    rfl
  | negSucc n =>
    refine ⟨_, toDigits_isWhole (n + 1), .inr ⟨?_, ?_⟩⟩
    · rw [show toString (Int.negSucc n) = "-" ++ (n + 1).repr from rfl, String.toList_append, Nat.toList_repr]
      rfl
    · rw [digitsValue_toDigits]
      exact Int.negSucc_eq n

theorem intText_spells (n : Int) : Spells (toString n).toList (.int n) := by
  obtain ⟨ds, whole, ⟨text, e⟩ | ⟨text, e⟩⟩ := intText_cases n
  · rw [text, e]
    exact .natural whole
  · rw [text, e]
    exact .negative whole

/-! ## Documents -/

mutual

/-- No number of the document has a fraction or an exponent. -/
def isWhole : Json → Bool
  | real _ => false
  | array xs => allWhole xs
  | object ms => membersWhole ms
  | _ => true

/-- No number of the documents has a fraction or an exponent. -/
def allWhole : List Json → Bool
  | [] => true
  | x :: xs => isWhole x && allWhole xs

/-- No number of the members has a fraction or an exponent. -/
def membersWhole : List (String × Json) → Bool
  | [] => true
  | (_, x) :: ms => isWhole x && membersWhole ms

end

theorem gap_lineBreak (depth : Nat) : Gap (lineBreak depth) := by
  intro c mem
  rcases List.mem_cons.1 mem with rfl | mem
  · rfl
  · exact List.eq_of_mem_replicate mem ▸ rfl

theorem gap_nil : Gap [] := nofun

/-- An item and its text. -/
def itemAt (depth : Nat) (x : Json) : List Char × Json := (indentedAt depth x, x)

theorem joined_items (outer depth : Nat) (x : Json) (xs : List Json) :
    Joined (((x :: xs).map (itemAt depth)).map Prod.fst)
      (lineBreak depth ++ indentedAt depth x ++ (indentedItems depth xs ++ lineBreak outer)) := by
  induction xs generalizing x with
  | nil => exact .one (gap_lineBreak depth) (gap_lineBreak outer)
  | cons y ys ih =>
    have more := Joined.more (gap_lineBreak depth) gap_nil (t := indentedAt depth x) (ih y)
    rw [List.append_nil] at more
    simpa [indentedItems, itemAt] using more

/-- A member and its texts. -/
def memberAt (depth : Nat) (m : String × Json) : Member where
  key := m.1
  value := m.2
  keyText := m.1.toList.flatMap escapeChar
  before := []
  after := [' ']
  valueText := indentedAt depth m.2

theorem joined_members (outer depth : Nat) (m : String × Json) (ms : List (String × Json)) :
    Joined (((m :: ms).map (memberAt depth)).map Member.text)
      (lineBreak depth ++ (memberAt depth m).text ++ (indentedMembers depth ms ++ lineBreak outer)) := by
  induction ms generalizing m with
  | nil => exact .one (gap_lineBreak depth) (gap_lineBreak outer)
  | cons n ns ih =>
    have more := Joined.more (gap_lineBreak depth) gap_nil (t := (memberAt depth m).text) (ih n)
    rw [List.append_nil] at more
    simpa [indentedMembers, memberAt, Member.text, quoted] using more

mutual

theorem indentedAt_spells : ∀ (j : Json) (depth : Nat), j.isWhole = true → Spells (indentedAt depth j) j
  | null, _, _ => .null
  | bool true, _, _ => .true
  | bool false, _, _ => .false
  | int n, _, _ => intText_spells n
  | string s, _, _ => .string (escaped_spells s.toList)
  | array [], _, _ => @Spells.array [] [] nofun (.none gap_nil)
  | object [], _, _ => @Spells.object [] [] nofun nofun nofun (.none gap_nil)
  | array (x :: xs), depth, h => by
    obtain ⟨first, others⟩ := Bool.and_eq_true_iff.1 h
    have spelled : ∀ p ∈ (x :: xs).map (itemAt (depth + 1)), Spells p.1 p.2 :=
      List.forall_mem_cons.2 ⟨indentedAt_spells x (depth + 1) first, items_spell xs (depth + 1) others⟩
    have whole := Spells.array spelled (joined_items depth (depth + 1) x xs)
    have values : ((x :: xs).map (itemAt (depth + 1))).map Prod.snd = x :: xs := by
      rw [List.map_map]
      exact List.map_id' _
    rw [values] at whole
    simpa [indentedAt] using whole
  | object (m :: ms), depth, h => by
    obtain ⟨first, others⟩ := Bool.and_eq_true_iff.1 h
    have spelled : ∀ part ∈ (m :: ms).map (memberAt (depth + 1)), Spells part.valueText part.value :=
      List.forall_mem_cons.2 ⟨indentedAt_spells m.2 (depth + 1) first, members_spell ms (depth + 1) others⟩
    have keys : ∀ part ∈ (m :: ms).map (memberAt (depth + 1)), SpellsChars part.keyText part.key.toList :=
      List.forall_mem_map.2 fun m _ => escaped_spells m.1.toList
    have gaps : ∀ part ∈ (m :: ms).map (memberAt (depth + 1)), Gap part.before ∧ Gap part.after :=
      List.forall_mem_map.2 fun _ _ => ⟨gap_nil, fun _ mem => List.mem_singleton.1 mem ▸ rfl⟩
    have whole := Spells.object keys gaps spelled (joined_members depth (depth + 1) m ms)
    have values : ((m :: ms).map (memberAt (depth + 1))).map (fun part => (part.key, part.value)) =
        m :: ms := by
      rw [List.map_map]
      exact List.map_id' _
    rw [values] at whole
    simpa [indentedAt, memberAt, Member.text, quoted] using whole

theorem items_spell : ∀ (xs : List Json) (depth : Nat), allWhole xs = true →
    ∀ p ∈ xs.map (itemAt depth), Spells p.1 p.2
  | [], _, _ => nofun
  | x :: xs, depth, h =>
    have ⟨first, others⟩ := Bool.and_eq_true_iff.1 h
    List.forall_mem_cons.2 ⟨indentedAt_spells x depth first, items_spell xs depth others⟩

theorem members_spell : ∀ (ms : List (String × Json)) (depth : Nat), membersWhole ms = true →
    ∀ part ∈ ms.map (memberAt depth), Spells part.valueText part.value
  | [], _, _ => nofun
  | m :: ms, depth, h =>
    have ⟨first, others⟩ := Bool.and_eq_true_iff.1 h
    List.forall_mem_cons.2 ⟨indentedAt_spells m.2 depth first, members_spell ms depth others⟩

end

/-- The text of a document spells it. -/
theorem indented_spells {j : Json} (h : j.isWhole = true) : SpellsText j.indented.toList j :=
  ⟨[], indentedAt 0 j, [], by simp [indented], gap_nil, indentedAt_spells j 0 h, gap_nil⟩

theorem parse?_indented {j : Json} (h : j.isWhole = true) : parse? j.indented = some j :=
  parse?_of_spells (indented_spells h)

/-! ## ASCII -/

/-- All characters of the text are ASCII characters. -/
def Ascii (t : List Char) : Prop := ∀ c ∈ t, c.toNat < 128

instance (t : List Char) : Decidable (Ascii t) := List.decidableBAll (fun c : Char => c.toNat < 128) t

variable {t u : List Char}

theorem ascii_nil : Ascii [] := nofun

theorem ascii_cons {c : Char} : Ascii (c :: t) ↔ c.toNat < 128 ∧ Ascii t := List.forall_mem_cons

theorem ascii_append : Ascii (t ++ u) ↔ Ascii t ∧ Ascii u := List.forall_mem_append

theorem ascii_gap (h : Gap t) : Ascii t := by
  intro c mem
  have gap := h c mem
  simp only [isGap, Bool.or_eq_true, beq_iff_eq] at gap
  rcases gap with ((rfl | rfl) | rfl) | rfl <;> decide

theorem ascii_digits (h : IsWhole t) : Ascii t := by
  intro c mem
  have digit := h.digits c mem
  simp only [Char.isDigit, Bool.and_eq_true, decide_eq_true_eq, UInt32.le_iff_toNat_le] at digit
  exact Nat.lt_of_le_of_lt digit.2 (by decide)

theorem ascii_hexDigits (width n : Nat) : Ascii (hexDigits width n) := by
  induction width generalizing n with
  | zero => exact ascii_nil
  | succ width ih =>
    have each : ∀ d < 16, (Nat.digitChar d).toNat < 128 := by decide
    exact ascii_append.2 ⟨ih _, ascii_cons.2 ⟨each _ (Nat.mod_lt _ (by decide)), ascii_nil⟩⟩

theorem ascii_escapeUnit (n : Nat) : Ascii (escapeUnit n) :=
  ascii_cons.2 ⟨by decide, ascii_cons.2 ⟨by decide, ascii_hexDigits 4 n⟩⟩

theorem ascii_escapeChar (c : Char) : Ascii (escapeChar c) := by
  unfold escapeChar
  split_ifs with quote backslash newline ret tab back feed visible unit
  iterate 7 exact ascii_cons.2 ⟨by decide, ascii_cons.2 ⟨by decide, ascii_nil⟩⟩
  · rw [Bool.and_eq_true, decide_eq_true_iff, decide_eq_true_iff] at visible
    exact ascii_cons.2 ⟨Nat.lt_of_le_of_lt visible.2 (by decide), ascii_nil⟩
  · exact ascii_escapeUnit _
  · exact ascii_append.2 ⟨ascii_escapeUnit _, ascii_escapeUnit _⟩

theorem ascii_quoted (s : String) : Ascii (quoted s) := by
  refine ascii_append.2 ⟨ascii_cons.2 ⟨by decide, fun c mem => ?_⟩, ascii_cons.2 ⟨by decide, ascii_nil⟩⟩
  obtain ⟨d, -, mem⟩ := List.mem_flatMap.1 mem
  exact ascii_escapeChar d c mem

theorem ascii_intText (n : Int) : Ascii (toString n).toList := by
  obtain ⟨ds, whole, ⟨text, -⟩ | ⟨text, -⟩⟩ := intText_cases n
  · exact text ▸ ascii_digits whole
  · exact text ▸ ascii_cons.2 ⟨by decide, ascii_digits whole⟩

mutual

theorem indentedAt_ascii : ∀ (j : Json) (depth : Nat), j.isWhole = true → Ascii (indentedAt depth j)
  | null, _, _ => show Ascii ['n', 'u', 'l', 'l'] by decide
  | bool true, _, _ => show Ascii ['t', 'r', 'u', 'e'] by decide
  | bool false, _, _ => show Ascii ['f', 'a', 'l', 's', 'e'] by decide
  | int n, _, _ => ascii_intText n
  | string s, _, _ => ascii_quoted s
  | array [], _, _ => show Ascii ['[', ']'] by decide
  | object [], _, _ => show Ascii ['\x7b', '\x7d'] by decide
  | array (x :: xs), depth, h => by
    obtain ⟨first, others⟩ := Bool.and_eq_true_iff.1 h
    have item := indentedAt_ascii x (depth + 1) first
    have items := items_ascii xs (depth + 1) others
    simp [indentedAt, ascii_cons, ascii_append, ascii_nil, ascii_gap (gap_lineBreak _), item, items]
  | object ((k, x) :: ms), depth, h => by
    obtain ⟨first, others⟩ := Bool.and_eq_true_iff.1 h
    have value := indentedAt_ascii x (depth + 1) first
    have members := members_ascii ms (depth + 1) others
    simp [indentedAt, ascii_cons, ascii_append, ascii_nil, ascii_gap (gap_lineBreak _), ascii_quoted, value,
      members]

theorem items_ascii : ∀ (xs : List Json) (depth : Nat), allWhole xs = true →
    Ascii (indentedItems depth xs)
  | [], _, _ => ascii_nil
  | x :: xs, depth, h => by
    obtain ⟨first, others⟩ := Bool.and_eq_true_iff.1 h
    have item := indentedAt_ascii x depth first
    have items := items_ascii xs depth others
    simp [indentedItems, ascii_cons, ascii_append, ascii_gap (gap_lineBreak _), item, items]

theorem members_ascii : ∀ (ms : List (String × Json)) (depth : Nat), membersWhole ms = true →
    Ascii (indentedMembers depth ms)
  | [], _, _ => ascii_nil
  | (k, x) :: ms, depth, h => by
    obtain ⟨first, others⟩ := Bool.and_eq_true_iff.1 h
    have value := indentedAt_ascii x depth first
    have members := members_ascii ms depth others
    simp [indentedMembers, ascii_cons, ascii_append, ascii_gap (gap_lineBreak _), ascii_quoted, value, members]

end

theorem indented_ascii {j : Json} (h : j.isWhole = true) : Ascii j.indented.toList := by
  rw [indented, String.toList_ofList]
  exact indentedAt_ascii j 0 h

end ModuleAudit.Json
