import Mathlib.Order.Bounds.Basic
import ModuleAudit.Java.Method
import ModuleAudit.Proofs.Java.Bracket

/-!
# The bracket that closes another one

Counted from an opening bracket on, the brackets that are opened and those that are closed are even
(`EvenThrough`) for the first time where it is closed. The search finds exactly this place, and nothing exactly
if there is none; up to there the text is balanced, and no earlier front of it is; and no two brackets are closed
by the same one (`closing_bracket_least`).
-/

namespace ModuleAudit.Java

variable {opener closer : Char} {s u w : List Char} {a b k : Nat}

/-- From one offset of a text through a later one as many brackets are opened as closed. -/
structure EvenThrough (opener closer : Char) (s : List Char) (a k : Nat) : Prop where
  later : a < k
  inside : k < s.length
  even : (slice s a (k + 1)).count opener = (slice s a (k + 1)).count closer

/-! ## Counting from an opening bracket -/

/-- A stretch of a text from an opening bracket on. -/
theorem slice_of_opener (opens : s[a]? = some opener) (le : a ≤ k) :
    slice s a (k + 1) = opener :: (s.drop (a + 1)).take (k - a) := by
  obtain ⟨inside, rfl⟩ := List.getElem?_eq_some_iff.1 opens
  rw [slice, List.drop_eq_getElem_cons inside, Nat.succ_sub le, List.take_succ_cons]

/-- The brackets are even where one more has been closed than opened behind the first one. -/
theorem evenThrough_iff (apart : opener ≠ closer) (opens : s[a]? = some opener) (later : a < k) :
    EvenThrough opener closer s a k ↔ k < s.length ∧
      1 + ((s.drop (a + 1)).take (k - a)).count opener =
        ((s.drop (a + 1)).take (k - a)).count closer := by
  have counts : (slice s a (k + 1)).count opener = (slice s a (k + 1)).count closer ↔
      1 + ((s.drop (a + 1)).take (k - a)).count opener =
        ((s.drop (a + 1)).take (k - a)).count closer := by
    rw [slice_of_opener opens later.le, List.count_cons_self, List.count_cons_of_ne apart, Nat.add_comm]
  rw [← counts]
  exact ⟨fun h => ⟨h.inside, h.even⟩, fun ⟨inside, even⟩ => ⟨later, inside, even⟩⟩

/-- A balanced stretch between a bracket and the one that closes it is balanced with them, and no shorter
front is. -/
theorem balanced_enclosed (apart : opener ≠ closer) (h : Balanced opener closer u) :
    Balanced opener closer (opener :: (u ++ [closer])) ∧
      ∀ w, w <+: opener :: (u ++ [closer]) → w ≠ [] → w ≠ opener :: (u ++ [closer]) →
        w.count closer < w.count opener := by
  have even : (opener :: (u ++ [closer])).count closer = (opener :: (u ++ [closer])).count opener := by
    simp [List.count_cons_of_ne apart, List.count_cons_of_ne apart.symm, h.count]
  have open_ : ∀ w, w <+: opener :: (u ++ [closer]) → w ≠ [] → w ≠ opener :: (u ++ [closer]) →
      w.count closer < w.count opener := by
    intro w front nonempty proper
    obtain ⟨w, rfl, rest⟩ := (List.prefix_cons_iff.1 front).resolve_left nonempty
    have inner := (List.prefix_concat_iff.1 rest).resolve_left fun e => proper (congrArg (opener :: ·) e)
    have := h.front w inner
    rw [List.count_cons_self, List.count_cons_of_ne apart]
    omega
  refine ⟨⟨even, fun w front => ?_⟩, open_⟩
  rcases eq_or_ne w [] with rfl | nonempty
  · exact Nat.le_refl _
  rcases eq_or_ne w (opener :: (u ++ [closer])) with rfl | proper
  · exact even.le
  · exact (open_ w front nonempty proper).le

/-- Where the search ends, a balanced stretch and its closing bracket have been passed. -/
theorem exists_balanced_of_closingAt? (apart : opener ≠ closer)
    (h : closingAt? opener closer s a = some k) :
    ∃ u v, s.drop (a + 1) = u ++ closer :: v ∧ k = a + 1 + u.length ∧ Balanced opener closer u := by
  obtain ⟨n, found, rfl⟩ := Option.map_eq_some_iff.1 h
  obtain ⟨u, v, split, rfl, balanced⟩ := (closing?_one_eq_some_iff apart).1 found
  exact ⟨u, v, split, Nat.add_comm .., balanced⟩

/-- From a bracket through the first one behind a stretch that closes it. -/
theorem slice_through {v : List Char} (opens : s[a]? = some opener)
    (split : s.drop (a + 1) = u ++ closer :: v) :
    slice s a (a + 1 + u.length + 1) = opener :: (u ++ [closer]) := by
  have length : a + 1 + u.length - a = (u ++ [closer]).length := by
    rw [List.length_append, List.length_singleton]
    omega
  rw [slice_of_opener opens (by omega), split, length, List.append_cons u closer v, List.take_left]

/-- The search ends no later than where the brackets are even. -/
theorem exists_closingAt?_of_evenThrough (apart : opener ≠ closer) (opens : s[a]? = some opener)
    (h : EvenThrough opener closer s a k) : ∃ k', closingAt? opener closer s a = some k' := by
  have count := ((evenThrough_iff apart opens h.later).1 h).2
  obtain ⟨n, -, found⟩ := closing?_of_count apart Nat.one_pos count.le ((s.drop (a + 1)).drop (k - a))
  rw [List.take_append_drop] at found
  exact ⟨n + (a + 1), by rw [closingAt?, found]; rfl⟩

/-- Where the search ends, the brackets are even for the first time. -/
theorem isLeast_of_closingAt? (apart : opener ≠ closer) (opens : s[a]? = some opener)
    (h : closingAt? opener closer s a = some k) : IsLeast {k | EvenThrough opener closer s a k} k := by
  obtain ⟨u, v, split, rfl, balanced⟩ := exists_balanced_of_closingAt? apart h
  obtain ⟨-, closes, -⟩ := closingAt?_eq_some apart h
  constructor
  · refine ⟨by omega, (List.getElem?_eq_some_iff.1 closes).1, ?_⟩
    rw [slice_through opens split]
    exact (balanced_enclosed apart balanced).1.count.symm
  · intro k even
    have count := ((evenThrough_iff apart opens even.later).1 even).2
    by_contra early
    -- Before the end there is only a front of the balanced stretch, in which no bracket is closed too many.
    have short : k - a ≤ u.length := by omega
    have front := balanced.front (u.take (k - a)) (List.take_prefix ..)
    rw [split, List.take_append_of_le_length short] at count
    omega

/-- No two brackets are closed by the same one. -/
theorem closingAt?_inj (apart : opener ≠ closer) (opens : s[a]? = some opener)
    (opens' : s[b]? = some opener) (h : closingAt? opener closer s a = some k)
    (h' : closingAt? opener closer s b = some k) : a = b := by
  -- Of two brackets the second one is closed before the first one.
  have before {a b : Nat} (opens : s[b]? = some opener) (h : closingAt? opener closer s a = some k)
      (h' : closingAt? opener closer s b = some k) : ¬ a < b := by
    intro lt
    have inside := (closingAt?_eq_some apart h').1
    obtain ⟨k', found, earlier⟩ := closingAt?_inner apart h opens lt inside
    rw [h', Option.some.injEq] at found
    omega
  exact Nat.le_antisymm (Nat.not_lt.1 (before opens h' h)) (Nat.not_lt.1 (before opens' h h'))

/-! ## What the search finds -/

/-- The search for the bracket that closes another one finds the first place where the brackets are even, and
nothing exactly if there is no such place. The text up to there is balanced, and every earlier front of it has a
bracket open. Different brackets are closed by different ones. -/
theorem closing_bracket_least (apart : opener ≠ closer) (opens : s[a]? = some opener) :
    (∀ k, closingAt? opener closer s a = some k ↔ IsLeast {k | EvenThrough opener closer s a k} k) ∧
      (closingAt? opener closer s a = none ↔ ∀ k, ¬ EvenThrough opener closer s a k) ∧
      (∀ k, closingAt? opener closer s a = some k →
        Balanced opener closer (slice s a (k + 1)) ∧
          ∀ w, w <+: slice s a (k + 1) → w ≠ [] → w ≠ slice s a (k + 1) →
            w.count closer < w.count opener) ∧
      ∀ b k, s[b]? = some opener → b ≠ a → closingAt? opener closer s a = some k →
        closingAt? opener closer s b ≠ some k := by
  refine ⟨fun k => ⟨isLeast_of_closingAt? apart opens, fun least => ?_⟩, ⟨fun none k even => ?_, fun never => ?_⟩,
    fun k h => ?_, fun b k opens' other h h' => ?_⟩
  · obtain ⟨k', found⟩ := exists_closingAt?_of_evenThrough apart opens least.1
    rw [found, (isLeast_of_closingAt? apart opens found).unique least]
  · obtain ⟨k', found⟩ := exists_closingAt?_of_evenThrough apart opens even
    exact nomatch none.symm.trans found
  · by_contra some
    obtain ⟨k, found⟩ := Option.ne_none_iff_exists'.1 some
    exact never k (isLeast_of_closingAt? apart opens found).1
  · obtain ⟨u, v, split, rfl, balanced⟩ := exists_balanced_of_closingAt? apart h
    rw [slice_through opens split]
    exact balanced_enclosed apart balanced
  · exact other (closingAt?_inj apart opens' opens h' h)

/-- A pair inside another one, and a bracket that is never closed. -/
theorem closing_bracket_least_nested :
    let s := "f(a(b)) (c".toList
    '(' ≠ ')' ∧ s[1]? = some '(' ∧ IsLeast {k | EvenThrough '(' ')' s 1 k} 6 ∧ s[3]? = some '(' ∧
      closingAt? '(' ')' s 3 ≠ some 6 ∧ s[8]? = some '(' ∧ ∀ k, ¬ EvenThrough '(' ')' s 8 k := by
  intro s
  have apart : '(' ≠ ')' := by decide
  have outer : s[1]? = some '(' := rfl
  have inner : s[3]? = some '(' := rfl
  have last : s[8]? = some '(' := rfl
  obtain ⟨found, -, -, alone⟩ := closing_bracket_least apart outer
  exact ⟨apart, outer, (found 6).1 (by decide), inner, alone 3 6 inner (by decide) (by decide), last,
    (closing_bracket_least apart last).2.1.1 (by decide)⟩

end ModuleAudit.Java
