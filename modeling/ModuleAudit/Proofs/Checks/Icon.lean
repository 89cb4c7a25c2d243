import Mathlib.Data.List.Nodup
import Mathlib.Data.List.Pairwise
import Mathlib.Data.List.TakeWhile
import ModuleAudit.Checks.Naming

/-!
# The names that an icon may have

An icon is looked for under three stems, all in small letters: the display name without its spaces and with an
underscore before each capital but a first one, the same without underscores, and the first word in capitals.

Each stem comes from the one before it by leaving out characters (`pairwise_stems`). This order survives when
repeated and empty stems are dropped, so the first stem is the longest, and the last one is the first word of
the name, if it begins with one (`getLast?_kept`). It all comes together in `iconCandidates_wellFormed`.
-/

namespace ModuleAudit

/-! ## Small letters of ASCII -/

namespace Text

theorem isUpper_iff {c : Char} : c.isUpper = true ↔ 'A'.val ≤ c.val ∧ c.val ≤ 'Z'.val :=
  decide_eq_true_iff

theorem isLower_iff {c : Char} : c.isLower = true ↔ 'a'.val ≤ c.val ∧ c.val ≤ 'z'.val :=
  Bool.and_eq_true_iff.trans (and_congr decide_eq_true_iff decide_eq_true_iff)

theorem isDigit_iff {c : Char} : c.isDigit = true ↔ '0'.val ≤ c.val ∧ c.val ≤ '9'.val :=
  Bool.and_eq_true_iff.trans (and_congr decide_eq_true_iff decide_eq_true_iff)

theorem val_lt_of_isAlphanum {c : Char} (h : c.isAlphanum = true) : c.val < 0x80 := by
  have h : (c.isUpper || c.isLower || c.isDigit) = true := h
  rw [Bool.or_eq_true, Bool.or_eq_true, isUpper_iff, isLower_iff, isDigit_iff] at h
  rcases h with (upper | lower) | digit
  · exact UInt32.lt_of_le_of_lt upper.2 (by decide)
  · exact UInt32.lt_of_le_of_lt lower.2 (by decide)
  · exact UInt32.lt_of_le_of_lt digit.2 (by decide)

theorem isUpper_eq_false_of_isLower {c : Char} (h : c.isLower = true) : c.isUpper = false := by
  rw [Bool.eq_false_iff]
  intro upper
  exact absurd (UInt32.le_trans (isLower_iff.1 h).1 (isUpper_iff.1 upper).2) (by decide)

/-- A capital has a small letter, and every other character is its own small form. -/
theorem toLower_cases (c : Char) :
    c.isUpper = true ∧ c.toLower.isLower = true ∨ c.isUpper = false ∧ c.toLower = c := by
  by_cases h : c.isUpper = true
  · have range := isUpper_iff.1 h
    have val : c.toLower.val = c.val + ('a'.val - 'A'.val) := congrArg Char.val (dif_pos range)
    refine .inl ⟨h, isLower_iff.2 ?_⟩
    rw [val]
    simp only [UInt32.le_iff_toNat_le, UInt32.toNat_add] at range ⊢
    change 65 ≤ c.val.toNat ∧ c.val.toNat ≤ 90 at range
    change 97 ≤ (c.val.toNat + 32) % 2 ^ 32 ∧ (c.val.toNat + 32) % 2 ^ 32 ≤ 122
    omega
  · exact .inr ⟨Bool.eq_false_iff.2 h, dif_neg (mt isUpper_iff.2 h)⟩

theorem isUpper_toLower (c : Char) : c.toLower.isUpper = false := by
  rcases toLower_cases c with ⟨-, small⟩ | ⟨other, same⟩
  · exact isUpper_eq_false_of_isLower small
  · rwa [same]

theorem lowerAfter_eq_map {s : List Char} (ascii : ∀ c ∈ s, c.val < 0x80) (before : List Char) :
    lowerAfter before s = s.map Char.toLower := by
  induction s generalizing before with
  | nil => rfl
  | cons c s ih =>
    obtain ⟨small, ascii⟩ := List.forall_mem_cons.1 ascii
    -- The two characters that do not map to one character by themselves are not in ASCII.
    have dotted : c ≠ '\u0130' := by
      rintro rfl
      exact absurd small (by decide)
    have sigma : c ≠ '\u03a3' := by
      rintro rfl
      exact absurd small (by decide)
    simp [lowerAfter, dotted, sigma, lowerChar, small, ih ascii]

theorem lower_eq_map {s : List Char} (ascii : ∀ c ∈ s, c.val < 0x80) : lower s = s.map Char.toLower :=
  lowerAfter_eq_map ascii []

/-- What is no letter is the small form of itself only. -/
theorem toLower_eq_iff {a c : Char} (other : a.isAlpha = false) : c.toLower = a ↔ c = a := by
  obtain ⟨upper, lower⟩ : a.isUpper = false ∧ a.isLower = false := Bool.or_eq_false_iff.1 other
  rcases toLower_cases c with ⟨capital, small⟩ | ⟨-, same⟩
  · refine iff_of_false ?_ ?_
    · rintro rfl
      exact Bool.false_ne_true (lower.symm.trans small)
    · rintro rfl
      exact Bool.false_ne_true (upper.symm.trans capital)
  · rw [same]

theorem filter_map_toLower {a : Char} (other : a.isAlpha = false) (s : List Char) :
    (s.map Char.toLower).filter (· != a) = (s.filter (· != a)).map Char.toLower := by
  rw [List.filter_map]
  refine congrArg _ (List.filter_congr fun c _ => ?_)
  simp [bne_eq, toLower_eq_iff other]

end Text

namespace Naming

/-! ## Elements without repetitions -/

section Distinct

variable {α : Type} [BEq α] {as : List α} {a : α}

theorem distinct_sublist (seen as : List α) : (distinct seen as).Sublist as := by
  induction as generalizing seen with
  | nil => exact .slnil
  | cons a as ih =>
    rw [distinct]
    split
    · exact (ih seen).cons a
    · exact (ih (a :: seen)).cons_cons a

theorem head?_distinct (as : List α) : (distinct [] as).head? = as.head? := by
  cases as <;> rfl

variable [LawfulBEq α]

theorem mem_distinct {seen : List α} : a ∈ distinct seen as ↔ a ∈ as ∧ a ∉ seen := by
  induction as generalizing seen with
  | nil => simp [distinct]
  | cons b as ih =>
    rw [distinct]
    by_cases old : b ∈ seen
    · rw [if_pos (List.contains_iff_mem.2 old), ih, List.mem_cons]
      exact ⟨fun ⟨mem, new⟩ => ⟨.inr mem, new⟩,
        fun ⟨mem, new⟩ => ⟨mem.resolve_left fun h => new (h ▸ old), new⟩⟩
    · rw [if_neg (mt List.contains_iff_mem.1 old), List.mem_cons, ih, List.mem_cons, List.mem_cons]
      by_cases same : a = b
      · simp [same, old]
      · simp [same]

theorem nodup_distinct (seen as : List α) : (distinct seen as).Nodup := by
  induction as generalizing seen with
  | nil => exact .nil
  | cons a as ih =>
    rw [distinct]
    split
    · exact ih seen
    · exact List.nodup_cons.2 ⟨fun h => (mem_distinct.1 h).2 List.mem_cons_self, ih (a :: seen)⟩

end Distinct

/-- Where each list comes from those before it by leaving out elements, the last one is the one that is part of
all the others. -/
theorem getLast?_distinct {lists : List (List Char)} {s : List Char}
    (order : lists.Pairwise fun s t => t.Sublist s) (mem : s ∈ lists) (least : ∀ t ∈ lists, s.Sublist t) :
    (distinct [] lists).getLast? = some s := by
  have kept : s ∈ distinct [] lists := mem_distinct.2 ⟨mem, List.not_mem_nil⟩
  have ne : distinct [] lists ≠ [] := List.ne_nil_of_mem kept
  have : Std.Refl fun s t : List Char => t.Sublist s := ⟨List.Sublist.refl⟩
  have below : ((distinct [] lists).getLast ne).Sublist s :=
    (order.sublist (distinct_sublist [] lists)).rel_getLast kept
  have above : s.Sublist ((distinct [] lists).getLast ne) :=
    least _ (mem_distinct.1 (List.getLast_mem ne)).1
  rw [List.getLast?_eq_some_getLast ne, below.antisymm above]

/-! ## The three stems -/

variable {w : List Char}

/-- What stands for a character behind the first one. -/
def separated (c : Char) : List Char := if c.isUpper then ['_', c] else [c]

theorem filter_separated {s : List Char} (none : '_' ∉ s) :
    (s.flatMap separated).filter (· != '_') = s := by
  induction s with
  | nil => rfl
  | cons c s ih =>
    obtain ⟨other, none⟩ := List.ne_and_not_mem_of_not_mem_cons none
    have one : (separated c).filter (· != '_') = [c] := by
      unfold separated
      split <;> simp [Ne.symm other]
    rw [List.flatMap_cons, List.filter_append, one, ih none, List.singleton_append]

/-- Without the underscores it is the name again. -/
theorem filter_separateCapitals (none : '_' ∉ w) : (separateCapitals w).filter (· != '_') = w := by
  cases w with
  | nil => rfl
  | cons c s =>
    obtain ⟨other, none⟩ := List.ne_and_not_mem_of_not_mem_cons none
    show (c :: s.flatMap separated).filter (· != '_') = c :: s
    rw [List.filter_cons, if_pos (bne_iff_ne.2 other.symm), filter_separated none]

theorem firstWord_isPrefix (w : List Char) : firstWord w <+: w := by
  cases w with
  | nil => exact List.prefix_rfl
  | cons c s =>
    rw [firstWord]
    split
    · exact (List.prefix_cons_inj c).2 <| List.takeWhile_prefix _
    · exact List.nil_prefix

/-- There are no underscores among the small letters of the first word. -/
theorem firstWord_isPrefix_separateCapitals (w : List Char) : firstWord w <+: separateCapitals w := by
  cases w with
  | nil => exact List.prefix_rfl
  | cons c s =>
    rw [firstWord]
    split
    · have small : ∀ d ∈ s.takeWhile Char.isLower, separated d = [d] := fun d mem =>
        if_neg (Bool.eq_false_iff.1 (Text.isUpper_eq_false_of_isLower (List.mem_takeWhile_imp mem)))
      have alone : (s.takeWhile Char.isLower).flatMap separated = s.takeWhile Char.isLower := by
        rw [List.flatMap_congr small, List.flatMap_singleton']
      refine (List.prefix_cons_inj c).2 ⟨(s.dropWhile Char.isLower).flatMap separated, ?_⟩
      calc s.takeWhile Char.isLower ++ (s.dropWhile Char.isLower).flatMap separated
          = (s.takeWhile Char.isLower ++ s.dropWhile Char.isLower).flatMap separated := by
            rw [List.flatMap_append, alone]
        _ = s.flatMap separated := by rw [List.takeWhile_append_dropWhile]
    · exact List.nil_prefix

/-- The stems of a name without spaces, the most specific first. -/
def stems (w : List Char) : List (List Char) :=
  [separateCapitals w, w, firstWord w].map fun s => s.map Char.toLower

/-- The stems that are left without the empty ones and those that have been there before. -/
def kept (w : List Char) : List (List Char) := distinct [] ((stems w).filter fun s => !s.isEmpty)

theorem mem_kept {s : List Char} : s ∈ kept w ↔ s ∈ stems w ∧ s ≠ [] := by
  simp [kept, mem_distinct]

theorem head?_kept (ne : w ≠ []) : (kept w).head? = some ((separateCapitals w).map Char.toLower) := by
  obtain ⟨c, s, rfl⟩ := List.exists_cons_of_ne_nil ne
  rw [kept, head?_distinct]
  rfl

/-- The first word begins every stem. -/
theorem firstWord_isPrefix_of_mem_stems {s : List Char} (mem : s ∈ stems w) :
    (firstWord w).map Char.toLower <+: s := by
  obtain ⟨t, ht, rfl⟩ := List.mem_map.1 mem
  refine List.IsPrefix.map _ ?_
  simp only [List.mem_cons, List.not_mem_nil, or_false] at ht
  rcases ht with rfl | rfl | rfl
  · exact firstWord_isPrefix_separateCapitals w
  · exact firstWord_isPrefix _
  · exact List.prefix_rfl

section Plain

variable (plain : ∀ c ∈ w, c.isAlphanum = true)

include plain

theorem not_mem_of_isAlphanum {a : Char} (other : a.isAlphanum = false) : a ∉ w := fun mem =>
  Bool.false_ne_true (other.symm.trans (plain a mem))

theorem sublist_separateCapitals : w.Sublist (separateCapitals w) := by
  have part : ((separateCapitals w).filter (· != '_')).Sublist (separateCapitals w) := List.filter_sublist
  rwa [filter_separateCapitals (not_mem_of_isAlphanum plain (a := '_') rfl)] at part

theorem mem_separateCapitals {c : Char} (h : c ∈ separateCapitals w) : c = '_' ∨ c ∈ w := by
  refine or_iff_not_imp_left.2 fun other => ?_
  rw [← filter_separateCapitals (not_mem_of_isAlphanum plain (a := '_') rfl)]
  exact List.mem_filter.2 ⟨h, bne_iff_ne.2 other⟩

/-- Each stem comes from those before it by leaving out characters. -/
theorem pairwise_stems : (stems w).Pairwise fun s t => t.Sublist s := by
  have base : (firstWord w).Sublist w := (firstWord_isPrefix w).sublist
  have flat : w.Sublist (separateCapitals w) := sublist_separateCapitals plain
  refine List.Pairwise.map (R := fun s t => t.Sublist s) _ (fun s t h => h.map _) ?_
  simp [base, flat, base.trans flat]

/-- All that is in a stem is in the first one: underscores, and the characters of the name in small letters. -/
theorem characters_of_mem_stems {s : List Char} (mem : s ∈ stems w) :
    ∀ c ∈ s, c ≠ ' ' ∧ c.isUpper = false := by
  intro c hc
  have longest : ∀ t ∈ stems w, t.Sublist ((separateCapitals w).map Char.toLower) :=
    List.forall_mem_cons.2 ⟨.refl _, (List.pairwise_cons.1 (pairwise_stems plain)).1⟩
  obtain ⟨d, hd, rfl⟩ := List.mem_map.1 ((longest s mem).subset hc)
  refine ⟨fun space => ?_, Text.isUpper_toLower d⟩
  obtain rfl := (Text.toLower_eq_iff rfl).1 space
  rcases mem_separateCapitals plain hd with underscore | mem
  · exact absurd underscore (by decide)
  · exact not_mem_of_isAlphanum plain rfl mem

/-- The first word stands last. -/
theorem getLast?_kept (capital : firstWord w ≠ []) :
    (kept w).getLast? = some ((firstWord w).map Char.toLower) := by
  have mem : (firstWord w).map Char.toLower ∈ stems w := by simp [stems]
  refine getLast?_distinct ((pairwise_stems plain).filter _) (List.mem_filter.2 ⟨mem, ?_⟩) fun t ht => ?_
  · simpa using capital
  · exact (firstWord_isPrefix_of_mem_stems (List.mem_filter.1 ht).1).sublist

end Plain

/-! ## The candidates of a display name -/

/-- A name without its spaces. -/
def compact (name : String) : List Char := name.toList.filter (· != ' ')

variable {name : String}

/-- Spaces make no difference. -/
theorem iconCandidates_congr {other : String} (same : compact other = compact name) :
    iconCandidates other = iconCandidates name := by
  unfold compact at same
  rw [iconCandidates, iconCandidates, same]

theorem isAlphanum_of_mem_compact (plain : isPlain name.toList = true) :
    ∀ c ∈ compact name, c.isAlphanum = true := by
  intro c hc
  obtain ⟨mem, other⟩ := List.mem_filter.1 hc
  have either := List.all_eq_true.1 plain c mem
  simpa [bne_iff_ne.1 other] using either

theorem iconCandidates_eq (plain : isPlain name.toList = true) :
    iconCandidates name = (kept (compact name)).map String.ofList := by
  have plain := isAlphanum_of_mem_compact plain
  have ascii : ∀ c ∈ compact name, c.val < 0x80 := fun c hc => Text.val_lt_of_isAlphanum (plain c hc)
  have snake : ∀ c ∈ separateCapitals (compact name), c.val < 0x80 := fun c hc => by
    rcases mem_separateCapitals plain hc with rfl | mem
    · decide
    · exact ascii c mem
  have base : ∀ c ∈ firstWord (compact name), c.val < 0x80 := fun c hc =>
    ascii c ((firstWord_isPrefix _).subset hc)
  show (distinct [] ([Text.lower (separateCapitals (compact name)), Text.lower (compact name),
    Text.lower (firstWord (compact name))].filter fun s => !s.isEmpty)).map String.ofList = _
  rw [Text.lower_eq_map snake, Text.lower_eq_map ascii, Text.lower_eq_map base]
  rfl

/-- The candidates for the icon of a plain display name are different from each other, not empty, and without
spaces and capitals, and they do not depend on the spaces of the name. The name in small letters is among them,
the first one is the same but for underscores, and if the name begins with a capital the last one is a prefix of
each. -/
theorem iconCandidates_wellFormed (plain : isPlain name.toList = true) :
    (iconCandidates name).Nodup ∧
      (∀ stem ∈ iconCandidates name, stem ≠ "" ∧ ∀ c ∈ stem.toList, c ≠ ' ' ∧ c.isUpper = false) ∧
      (∀ other : String, compact other = compact name → iconCandidates other = iconCandidates name) ∧
      ((∃ c ∈ name.toList, c ≠ ' ') →
        String.ofList ((compact name).map Char.toLower) ∈ iconCandidates name ∧
          ∃ first, (iconCandidates name).head? = some first ∧
            first.toList.filter (· != '_') = (compact name).map Char.toLower) ∧
      ∀ c, name.toList.find? (· != ' ') = some c → c.isUpper = true →
        ∃ last, (iconCandidates name).getLast? = some last ∧
          ∀ stem ∈ iconCandidates name, last.toList <+: stem.toList := by
  have letters := isAlphanum_of_mem_compact plain
  refine ⟨?distinct, ?characters, fun _ => iconCandidates_congr, ?first, ?last⟩
  all_goals rw [iconCandidates_eq plain]
  case distinct => exact (nodup_distinct _ _).map fun _ _ => String.ofList_injective
  case characters =>
    refine List.forall_mem_map.2 fun s hs => ?_
    obtain ⟨mem, ne⟩ := mem_kept.1 hs
    rw [String.toList_ofList]
    exact ⟨fun empty => ne (String.ofList_injective empty), characters_of_mem_stems letters mem⟩
  case first =>
    intro ⟨c, mem, visible⟩
    have ne : compact name ≠ [] := List.ne_nil_of_mem (List.mem_filter.2 ⟨mem, bne_iff_ne.2 visible⟩)
    have flat : (compact name).map Char.toLower ∈ kept (compact name) :=
      mem_kept.2 ⟨by simp [stems], by simpa using ne⟩
    refine ⟨List.mem_map_of_mem flat, _, by rw [List.head?_map, head?_kept ne, Option.map_some], ?_⟩
    rw [String.toList_ofList, Text.filter_map_toLower rfl,
      filter_separateCapitals (not_mem_of_isAlphanum letters rfl)]
  case last =>
    intro c first capital
    have starts : (compact name).head? = some c := by rw [compact, List.head?_filter, first]
    obtain ⟨s, eq⟩ := List.head?_eq_some_iff.1 starts
    have word : firstWord (compact name) ≠ [] := by simp [eq, firstWord, capital]
    refine ⟨_, by rw [List.getLast?_map, getLast?_kept letters word, Option.map_some], ?_⟩
    refine List.forall_mem_map.2 fun s hs => ?_
    rw [String.toList_ofList, String.toList_ofList]
    exact firstWord_isPrefix_of_mem_stems (mem_kept.1 hs).1

/-- Capitals in a row, a digit behind a word, and spaces at the front, between words and inside a word. -/
theorem iconCandidates_wellFormed_capitals :
    let name := " Sap HA NA 2"
    isPlain name.toList = true ∧ iconCandidates name = ["sap_h_a_n_a2", "saphana2", "sap"] ∧
      (iconCandidates name).Nodup ∧
      (∀ stem ∈ iconCandidates name, stem ≠ "" ∧ ∀ c ∈ stem.toList, c ≠ ' ' ∧ c.isUpper = false) ∧
      iconCandidates "SapHANA2" = iconCandidates name ∧ "saphana2" ∈ iconCandidates name ∧
      (∃ first, (iconCandidates name).head? = some first ∧
        first.toList.filter (· != '_') = "saphana2".toList) ∧
      ∃ last, (iconCandidates name).getLast? = some last ∧
        ∀ stem ∈ iconCandidates name, last.toList <+: stem.toList := by
  intro name
  have plain : isPlain name.toList = true := by decide
  obtain ⟨nodup, characters, spaces, flat, last⟩ := iconCandidates_wellFormed plain
  have small : (compact name).map Char.toLower = "saphana2".toList := by decide
  rw [small, String.ofList_toList] at flat
  obtain ⟨mem, first⟩ := flat ⟨'S', by decide, by decide⟩
  exact ⟨plain, by decide +kernel, nodup, characters, spaces "SapHANA2" (by decide), mem, first,
    last 'S' (by decide) (by decide)⟩

end Naming
end ModuleAudit
