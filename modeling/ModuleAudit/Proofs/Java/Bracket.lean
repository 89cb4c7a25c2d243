import Mathlib.Data.List.Basic
import Mathlib.Order.CompletePartialOrder
import Mathlib.Order.Interval.Set.Disjoint
import ModuleAudit.Java.Bracket

/-!
# Matching brackets

The bracket that closes another one is the first at which as many brackets have been closed as
opened, so what stands between the two is balanced (`Balanced`).

* `closing?_eq_some_iff`: what the search for a closing bracket finds;
* `closing?_inner`: a bracket opened inside a pair is closed inside it;
* `spanOf_laminar`: the spans of two brackets of a text are apart, or one lies in the other.
-/

namespace ModuleAudit.Java

/-- As many brackets are closed as opened, and at no point more. -/
structure Balanced (opener closer : Char) (u : List Char) : Prop where
  count : u.count closer = u.count opener
  front : ∀ w, w <+: u → w.count closer ≤ w.count opener

variable {opener closer : Char} {depth n : Nat} {s u v y z : List Char}

/-! ## The first closing bracket -/

theorem closing?_opener : closing? opener closer depth (opener :: s) =
    (closing? opener closer (depth + 1) s).map (· + 1) := by
  rw [closing?, if_pos (beq_self_eq_true _)]

theorem closing?_closer (apart : opener ≠ closer) : closing? opener closer depth (closer :: s) =
    if depth ≤ 1 then some 0 else (closing? opener closer (depth - 1) s).map (· + 1) := by
  rw [closing?, if_neg (by simpa using apart.symm), if_pos (beq_self_eq_true _)]

theorem closing?_other {c : Char} (ho : c ≠ opener) (hc : c ≠ closer) :
    closing? opener closer depth (c :: s) = (closing? opener closer depth s).map (· + 1) := by
  rw [closing?, if_neg (by simpa using ho), if_neg (by simpa using hc)]

/-- At every point of a stretch fewer brackets have been closed than `depth` and those opened in it. -/
def Within (opener closer : Char) (depth : Nat) (u : List Char) : Prop :=
  ∀ w, w <+: u → w.count closer < depth + w.count opener

theorem within_cons {c : Char} : Within opener closer depth (c :: u) ↔
    0 < depth ∧ ∀ w, w <+: u → (c :: w).count closer < depth + (c :: w).count opener := by
  constructor
  · intro h
    refine ⟨by simpa using h [] (List.nil_prefix), fun w hw => h (c :: w) ?_⟩
    exact List.cons_prefix_cons.2 ⟨rfl, hw⟩
  · rintro ⟨pos, h⟩ w hw
    rcases List.prefix_cons_iff.1 hw with rfl | ⟨w, rfl, front⟩
    · simpa using pos
    · exact h w front

theorem within_opener (apart : opener ≠ closer) : Within opener closer depth (opener :: u) ↔
    0 < depth ∧ Within opener closer (depth + 1) u := by
  rw [within_cons, Within]
  simp only [List.count_cons_self, List.count_cons_of_ne apart, Nat.add_right_comm, Nat.add_assoc]

theorem within_closer (apart : opener ≠ closer) : Within opener closer depth (closer :: u) ↔
    1 < depth ∧ Within opener closer (depth - 1) u := by
  rw [within_cons, Within]
  simp only [List.count_cons_self, List.count_cons_of_ne apart.symm]
  constructor
  · rintro ⟨_, h⟩
    have deep : 1 < depth := by simpa using h [] List.nil_prefix
    refine ⟨deep, fun w hw => ?_⟩
    have := h w hw
    omega
  · rintro ⟨deep, h⟩
    refine ⟨by omega, fun w hw => ?_⟩
    have := h w hw
    omega

theorem within_other {c : Char} (ho : c ≠ opener) (hc : c ≠ closer) :
    Within opener closer depth (c :: u) ↔ 0 < depth ∧ Within opener closer depth u := by
  rw [within_cons, Within]
  simp only [List.count_cons_of_ne ho, List.count_cons_of_ne hc]

theorem balanced_iff_within : Balanced opener closer u ↔
    u.count closer = u.count opener ∧ Within opener closer 1 u := by
  constructor
  · rintro ⟨count, front⟩
    exact ⟨count, fun w hw => by have := front w hw; omega⟩
  · rintro ⟨count, within⟩
    exact ⟨count, fun w hw => by have := within w hw; omega⟩

theorem balanced_of_notMem (ho : opener ∉ u) (hc : closer ∉ u) : Balanced opener closer u where
  count := by rw [List.count_eq_zero.2 ho, List.count_eq_zero.2 hc]
  front w hw := by
    rw [List.count_eq_zero.2 (mt (fun h => hw.subset h) hc)]
    exact Nat.zero_le _

/-- The search goes past a stretch that leaves a bracket open at every point. -/
theorem closing?_append (apart : opener ≠ closer) (within : Within opener closer depth u) :
    closing? opener closer depth (u ++ v) =
      (closing? opener closer (depth + u.count opener - u.count closer) v).map (· + u.length) := by
  induction u generalizing depth with
  | nil => simp
  | cons c u ih =>
    by_cases ho : c = opener
    · subst ho
      rw [List.cons_append, closing?_opener, ih ((within_opener apart).1 within).2]
      simp [List.count_cons_of_ne apart, Function.comp_def, Nat.add_assoc, Nat.add_comm 1]
    by_cases hc : c = closer
    · subst hc
      obtain ⟨deep, within⟩ := (within_closer apart).1 within
      rw [List.cons_append, closing?_closer apart, if_neg (by omega), ih within]
      have depth_eq : depth - 1 + u.count opener - u.count c =
          depth + u.count opener - (u.count c + 1) := by omega
      simp [List.count_cons_of_ne apart.symm, Function.comp_def, Nat.add_assoc, depth_eq]
    · rw [List.cons_append, closing?_other ho hc, ih ((within_other ho hc).1 within).2]
      simp [List.count_cons_of_ne ho, List.count_cons_of_ne hc, Function.comp_def, Nat.add_assoc]

/-- The search finds the first bracket that closes what is open. -/
theorem closing?_eq_some_iff (apart : opener ≠ closer) (pos : 0 < depth) :
    closing? opener closer depth s = some n ↔
      ∃ u v, s = u ++ closer :: v ∧ u.length = n ∧ Within opener closer depth u ∧
        u.count closer + 1 = depth + u.count opener := by
  constructor
  · intro h
    induction s generalizing depth n with
    | nil => exact nomatch h
    | cons c s ih =>
      by_cases ho : c = opener
      · subst ho
        rw [closing?_opener, Option.map_eq_some_iff] at h
        obtain ⟨m, h, rfl⟩ := h
        obtain ⟨u, v, rfl, rfl, within, count⟩ := ih (Nat.succ_pos _) h
        refine ⟨c :: u, v, rfl, rfl, (within_opener apart).2 ⟨pos, within⟩, ?_⟩
        rw [List.count_cons_self, List.count_cons_of_ne apart]
        omega
      by_cases hc : c = closer
      · subst hc
        rw [closing?_closer apart] at h
        split at h
        · obtain rfl : 0 = n := Option.some.inj h
          refine ⟨[], s, rfl, rfl, fun w hw => ?_, ?_⟩
          · rw [List.prefix_nil.1 hw]
            simpa using pos
          · simp
            omega
        · rw [Option.map_eq_some_iff] at h
          obtain ⟨m, h, rfl⟩ := h
          obtain ⟨u, v, rfl, rfl, within, count⟩ := ih (by omega) h
          refine ⟨c :: u, v, rfl, rfl, (within_closer apart).2 ⟨by omega, within⟩, ?_⟩
          rw [List.count_cons_self, List.count_cons_of_ne apart.symm]
          omega
      · rw [closing?_other ho hc, Option.map_eq_some_iff] at h
        obtain ⟨m, h, rfl⟩ := h
        obtain ⟨u, v, rfl, rfl, within, count⟩ := ih pos h
        refine ⟨c :: u, v, rfl, rfl, (within_other ho hc).2 ⟨pos, within⟩, ?_⟩
        rw [List.count_cons_of_ne ho, List.count_cons_of_ne hc]
        omega
  · rintro ⟨u, v, rfl, rfl, within, count⟩
    have last : depth + u.count opener - u.count closer = 1 := by omega
    rw [closing?_append apart within, last, closing?_closer apart]
    simp

/-- The bracket that closes another one is the first after a balanced stretch. -/
theorem closing?_one_eq_some_iff (apart : opener ≠ closer) :
    closing? opener closer 1 s = some n ↔
      ∃ u v, s = u ++ closer :: v ∧ u.length = n ∧ Balanced opener closer u := by
  rw [closing?_eq_some_iff apart Nat.one_pos]
  refine exists₂_congr fun u v => and_congr_right fun _ => and_congr_right fun _ => ?_
  rw [balanced_iff_within, and_comm]
  refine and_congr_left fun _ => ?_
  omega

theorem balanced_iff_closing? (apart : opener ≠ closer) :
    Balanced opener closer u ↔ closing? opener closer 1 (u ++ [closer]) = some u.length := by
  rw [closing?_one_eq_some_iff apart]
  constructor
  · intro h
    exact ⟨u, [], rfl, rfl, h⟩
  · rintro ⟨v, w, split, length, h⟩
    obtain ⟨rfl, -⟩ := List.append_inj split length.symm
    exact h

instance (u : List Char) : Decidable (Balanced '\x7b' '\x7d' u) :=
  decidable_of_iff _ (balanced_iff_closing? (by decide)).symm

/-- A stretch that closes all that is open holds the bracket that is searched for. -/
theorem closing?_of_count (apart : opener ≠ closer) (pos : 0 < depth)
    (count : depth + u.count opener ≤ u.count closer) (v : List Char) :
    ∃ n < u.length, closing? opener closer depth (u ++ v) = some n := by
  -- The shortest front of the stretch that closes all ends with the bracket.
  induction u generalizing depth with
  | nil => simp at count; omega
  | cons c u ih =>
    by_cases ho : c = opener
    · subst ho
      rw [List.count_cons_self, List.count_cons_of_ne apart] at count
      obtain ⟨n, lt, h⟩ := ih (Nat.succ_pos depth) (by omega)
      exact ⟨n + 1, Nat.succ_lt_succ lt, by rw [List.cons_append, closing?_opener, h]; rfl⟩
    by_cases hc : c = closer
    · subst hc
      rw [List.count_cons_self, List.count_cons_of_ne apart.symm] at count
      by_cases deep : depth ≤ 1
      · exact ⟨0, Nat.succ_pos _, by rw [List.cons_append, closing?_closer apart, if_pos deep]⟩
      · have pos : 0 < depth - 1 := by omega
        obtain ⟨n, lt, h⟩ := ih pos (by omega)
        refine ⟨n + 1, Nat.succ_lt_succ lt, ?_⟩
        rw [List.cons_append, closing?_closer apart, if_neg deep, h]
        rfl
    · rw [List.count_cons_of_ne ho, List.count_cons_of_ne hc] at count
      obtain ⟨n, lt, h⟩ := ih pos count
      exact ⟨n + 1, Nat.succ_lt_succ lt, by rw [List.cons_append, closing?_other ho hc, h]; rfl⟩

/-- A bracket that is opened between another one and its closing bracket is closed in between. -/
theorem closing?_inner (apart : opener ≠ closer)
    (h : closing? opener closer 1 (z ++ opener :: y) = some n) (inside : z.length < n) :
    ∃ m, closing? opener closer 1 y = some m ∧ z.length + 1 + m < n := by
  obtain ⟨u, v, split, rfl, balanced⟩ := (closing?_one_eq_some_iff apart).1 h
  obtain ⟨u, rfl, rfl⟩ : ∃ u', u = z ++ opener :: u' ∧ y = u' ++ closer :: v := by
    rcases List.append_eq_append_iff.1 split with ⟨a, rfl, e⟩ | ⟨a, rfl, -⟩
    · cases a with
      | nil => simp at inside
      | cons d u =>
        obtain ⟨rfl, rfl⟩ := List.cons.inj e
        exact ⟨u, rfl, rfl⟩
    · rw [List.length_append] at inside
      omega
  have front := balanced.front z (List.prefix_append ..)
  have count := balanced.count
  simp only [List.count_append, List.count_cons_self, List.count_cons_of_ne apart] at count
  obtain ⟨m, lt, found⟩ :=
    closing?_of_count (u := u) apart Nat.one_pos (by omega) (closer :: v)
  exact ⟨m, found, by simp; omega⟩

/-! ## Brackets of a text -/

section Offsets

variable {a b k : Nat}

theorem drop_succ_eq (h : s[b]? = some opener) (lt : a < b) :
    ∃ z, s.drop (a + 1) = z ++ opener :: s.drop (b + 1) ∧ a + 1 + z.length = b := by
  obtain ⟨hb, rfl⟩ := List.getElem?_eq_some_iff.1 h
  refine ⟨(s.drop (a + 1)).take (b - (a + 1)), ?_, by simp; omega⟩
  conv => lhs; rw [← List.take_append_drop (b - (a + 1)) (s.drop (a + 1)), List.drop_drop]
  rw [Nat.add_sub_of_le lt, List.drop_eq_getElem_cons hb]

/-- The closing bracket of a bracket comes after it, and what stands between the two is balanced. -/
theorem closingAt?_eq_some (apart : opener ≠ closer) (h : closingAt? opener closer s a = some k) :
    a < k ∧ s[k]? = some closer ∧
      Balanced opener closer ((s.drop (a + 1)).take (k - (a + 1))) := by
  obtain ⟨n, found, rfl⟩ := Option.map_eq_some_iff.1 h
  obtain ⟨u, v, split, rfl, balanced⟩ := (closing?_one_eq_some_iff apart).1 found
  refine ⟨by omega, ?_, ?_⟩
  · have found : (s.drop (a + 1))[u.length]? = some closer := by rw [split]; simp
    rwa [List.getElem?_drop, Nat.add_comm] at found
  · rw [split, Nat.add_sub_cancel, List.take_left']
    · exact balanced
    · rfl

/-- A bracket inside a pair of brackets is closed inside it. -/
theorem closingAt?_inner (apart : opener ≠ closer) (h : closingAt? opener closer s a = some k)
    (hb : s[b]? = some opener) (after : a < b) (inside : b < k) :
    ∃ k', closingAt? opener closer s b = some k' ∧ k' < k := by
  obtain ⟨n, closed, rfl⟩ := Option.map_eq_some_iff.1 h
  obtain ⟨z, split, rfl⟩ := drop_succ_eq hb after
  rw [split] at closed
  obtain ⟨m, found, lt⟩ := closing?_inner apart closed (by omega)
  exact ⟨_, by rw [closingAt?, found]; rfl, by dsimp only; omega⟩

/-- The offsets from a bracket of a text through the one that closes it, or through the end. -/
def spanOf (opener closer : Char) (s : List Char) (a : Nat) : Set Nat :=
  Set.Ico a (((closingAt? opener closer s a).map (· + 1)).getD s.length)

/-- The spans of two brackets are apart, or that of the second one lies in that of the first one. -/
theorem spanOf_laminar (apart : opener ≠ closer) (hb : s[b]? = some opener) (lt : a < b) :
    Disjoint (spanOf opener closer s a) (spanOf opener closer s b) ∨
      spanOf opener closer s b ⊂ spanOf opener closer s a := by
  have inside {stop : Nat}
      (le : ((closingAt? opener closer s b).map (· + 1)).getD s.length ≤ stop) (room : a < stop) :
      spanOf opener closer s b ⊂ Set.Ico a stop := by
    refine Set.ssubset_iff_exists.2 ⟨Set.Ico_subset_Ico lt.le le, a, ⟨le_rfl, room⟩, ?_⟩
    exact fun h => absurd h.1 (Nat.not_le.2 lt)
  have hlen : b < s.length := (List.getElem?_eq_some_iff.1 hb).1
  cases h : closingAt? opener closer s a with
  | none =>
    -- What is never closed holds all that follows.
    right
    rw [spanOf.eq_def _ _ _ a, h]
    refine inside ?_ (lt.trans hlen)
    cases h' : closingAt? opener closer s b with
    | none => exact le_rfl
    | some k' =>
      obtain ⟨-, found, -⟩ := closingAt?_eq_some apart h'
      exact (List.getElem?_eq_some_iff.1 found).1
  | some k =>
    obtain ⟨after, found, -⟩ := closingAt?_eq_some apart h
    rcases Nat.lt_trichotomy b k with before | rfl | behind
    · right
      obtain ⟨k', closed, le⟩ := closingAt?_inner apart h hb lt before
      rw [spanOf.eq_def _ _ _ a, h]
      refine inside ?_ (by simp; omega)
      rw [closed]
      exact Nat.succ_le_succ le.le
    · exact absurd (Option.some.inj (hb.symm.trans found)) apart
    · left
      rw [spanOf, spanOf, h]
      exact Set.Ico_disjoint_Ico_same.mono_right (Set.Ico_subset_Ico_left behind)

end Offsets

end ModuleAudit.Java
