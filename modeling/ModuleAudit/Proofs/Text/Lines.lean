import Mathlib.Data.List.Basic
import ModuleAudit.Text.Lines

/-!
# Lines and line numbers

`splitLines` cuts a text at every kind of line end, and line numbers count newlines only. The two agree as
long as no other line ends are there (`otherEnds`):

* `exists_place_of_line`: where a line stands in the text, its index being the number of newlines and of
  other line ends before it;
* `splitOn_newline_cases`: the lines between newlines, where there are no other line ends.
-/

namespace ModuleAudit.Text

/-! ## Line ends -/

/-- The number of line ends in a text that are not newlines. A carriage return before a newline ends no line
by itself. -/
def otherEnds : List Char → Nat
  | [] => 0
  | '\r' :: '\n' :: rest => otherEnds rest
  | c :: rest => (if isLineBreak c ∧ c ≠ '\n' then 1 else 0) + otherEnds rest

theorem otherEnds_eq_zero {s : List Char} (h : ∀ c ∈ s, isLineBreak c = true → c = '\n') :
    otherEnds s = 0 := by
  fun_induction otherEnds s with
  | case1 => rfl
  | case2 rest => exact absurd (h '\r' List.mem_cons_self (by decide)) (by decide)
  | case3 c rest _ ih =>
    obtain ⟨first, h⟩ := List.forall_mem_cons.1 h
    rw [ih h, if_neg fun ⟨ends, other⟩ => other (first ends)]

theorem otherEnds_cons {c : Char} {s : List Char} (apart : c = '\r' → s.head? ≠ some '\n') :
    otherEnds (c :: s) = (if isLineBreak c ∧ c ≠ '\n' then 1 else 0) + otherEnds s := by
  rw [otherEnds.eq_def]
  split
  next empty => cases empty
  next rest return_ =>
    obtain ⟨rfl, rfl⟩ := List.cons.inj return_
    exact absurd rfl (apart rfl)
  next same =>
    obtain ⟨rfl, rfl⟩ := List.cons.inj same
    rfl

/-- Characters that end no line do not count. -/
theorem otherEnds_append {w : List Char} (plain : ∀ c ∈ w, isLineBreak c = false) (s : List Char) :
    otherEnds (w ++ s) = otherEnds s := by
  induction w with
  | nil => rfl
  | cons c w ih =>
    obtain ⟨hc, plain⟩ := List.forall_mem_cons.1 plain
    have no_return : c ≠ '\r' := by
      rintro rfl
      exact absurd hc (by decide)
    rw [List.cons_append, otherEnds_cons fun e => absurd e no_return, ih plain]
    simp [hc]

theorem otherEnds_append_right (s : List Char) {w : List Char} (plain : ∀ c ∈ w, isLineBreak c = false) :
    otherEnds (s ++ w) = otherEnds s := by
  fun_induction otherEnds s with
  | case1 => exact otherEnds_eq_zero fun c mem ends => by simp [plain c mem] at ends
  | case2 rest ih => exact ih
  | case3 c rest other ih =>
    rw [List.cons_append, otherEnds_cons, ih]
    rintro rfl first
    rcases List.head?_eq_some_iff.1 first with ⟨y, split⟩
    rcases List.append_eq_cons_iff.1 split with ⟨rfl, rfl⟩ | ⟨rest', rfl, -⟩
    · exact absurd (plain '\n' List.mem_cons_self) (by decide)
    · exact other rest' rfl rfl

theorem count_newline_eq_zero {w : List Char} (plain : ∀ c ∈ w, isLineBreak c = false) :
    w.count '\n' = 0 :=
  List.count_eq_zero.2 fun mem => absurd (plain '\n' mem) (by decide)

/-! ## Where a line stands -/

/-- The line stands in the text behind `i` line ends, and reaches from one line end to the next. -/
def HasLine (s : List Char) (i : Nat) (line : List Char) : Prop :=
  (∀ c ∈ line, isLineBreak c = false) ∧ ∃ x y, s = x ++ line ++ y ∧
    (∀ c ∈ x.getLast?, isLineBreak c = true) ∧ (∀ c ∈ y.head?, isLineBreak c = true) ∧
    x.count '\n' + otherEnds x = i

/-- A further line with its end comes before what has been read. -/
theorem HasLine.behind {w rest line : List Char} {i : Nat} (h : HasLine rest i line)
    (ending : List Char) (plain : ∀ c ∈ w, isLineBreak c = false) (last : ∃ c ∈ ending.getLast?, isLineBreak c = true)
    (one : ∀ x y, rest = x ++ y →
      (ending ++ x).count '\n' + otherEnds (ending ++ x) = x.count '\n' + otherEnds x + 1) :
    HasLine (w ++ (ending ++ rest)) (i + 1) line := by
  obtain ⟨one_line, x, y, split, front, back, rfl⟩ := h
  refine ⟨one_line, w ++ (ending ++ x), y, by rw [split]; simp, ?_, back, ?_⟩
  · rcases x.eq_nil_or_concat with rfl | ⟨x, c, rfl⟩
    · obtain ⟨c, mem, ends⟩ := last
      simpa [List.getLast?_append, Option.mem_def.1 mem] using ends
    · simpa [List.getLast?_append] using front
  · rw [List.count_append, otherEnds_append plain, count_newline_eq_zero plain, Nat.zero_add,
      one x (line ++ y) (by rw [split, List.append_assoc])]

/-- A line stands behind as many line ends as its index tells. -/
theorem hasLine_of_linesAfter {line s l : List Char} {i : Nat}
    (plain : ∀ c ∈ line, isLineBreak c = false) (h : (linesAfter line s)[i]? = some l) :
    HasLine (line.reverse ++ s) i l := by
  have plain' : ∀ c ∈ line.reverse, isLineBreak c = false := fun c mem => plain c (List.mem_reverse.1 mem)
  fun_induction linesAfter line s generalizing i with
  | case1 line empty => cases h
  | case2 line nonempty =>
    cases i with
    | zero =>
      obtain rfl : line.reverse = l := Option.some.inj h
      exact ⟨plain', [], [], by simp, nofun, nofun, rfl⟩
    | succ i => cases h
  | case3 line rest ih =>
    cases i with
    | zero =>
      obtain rfl : line.reverse = l := Option.some.inj h
      exact ⟨plain', [], _, rfl, nofun, by rintro c ⟨⟩; rfl, rfl⟩
    | succ i =>
      refine (ih nofun h nofun).behind ['\r', '\n'] plain' ⟨'\n', rfl, rfl⟩ ?_
      intro x y split
      simp [otherEnds]; omega
  | case4 line c rest other ends ih =>
    cases i with
    | zero =>
      obtain rfl : line.reverse = l := Option.some.inj h
      exact ⟨plain', [], _, rfl, nofun, by rintro _ ⟨⟩; exact ends, rfl⟩
    | succ i =>
      refine (ih nofun h nofun).behind [c] plain' ⟨c, rfl, ends⟩ ?_
      rintro x y rfl
      -- No return comes before a newline here, so the one character is the whole line end.
      have apart : c = '\r' → x.head? ≠ some '\n' := by
        rintro rfl first
        obtain ⟨x', rfl⟩ := List.head?_eq_some_iff.1 first
        exact other _ rfl rfl
      rw [List.singleton_append, otherEnds_cons apart, List.count_cons]
      by_cases newline : c = '\n'
      · simp [newline]; omega
      · simp [newline, ends]; omega
  | case5 line c rest other goes_on ih =>
    have plain_next : ∀ d ∈ c :: line, isLineBreak d = false :=
      List.forall_mem_cons.2 ⟨by simpa using goes_on, plain⟩
    have := ih plain_next h fun d mem => plain_next d (List.mem_reverse.1 mem)
    rwa [List.reverse_cons, List.append_assoc] at this

/-- Each line that a text is cut into stands in it behind as many line ends as its index tells. -/
theorem hasLine_of_splitLines {s line : List Char} {i : Nat} (h : (splitLines s)[i]? = some line) :
    HasLine s i line := by
  have whole : HasLine ([].reverse ++ s) i line := hasLine_of_linesAfter (List.forall_mem_nil _) h
  exact whole

/-! ## Newlines alone -/

theorem modifyHead_nil_append (lines : List (List Char)) :
    lines.modifyHead ([].reverse ++ ·) = lines := by
  cases lines <;> rfl

/-- Cut at newlines behind what has been read of a line, a text without other line ends has the same
lines, and an empty one more if a newline ends it. -/
theorem splitOn_newline_after (line : List Char) {s : List Char} (h : ∀ c ∈ s, isLineBreak c = true → c = '\n') :
    (s.splitOn '\n').modifyHead (line.reverse ++ ·) = linesAfter line s ∨
      (s.splitOn '\n').modifyHead (line.reverse ++ ·) = linesAfter line s ++ [[]] := by
  fun_induction linesAfter line s with
  | case1 line empty =>
    right
    simp [List.isEmpty_iff.1 empty, List.splitOn_nil]
  | case2 line nonempty =>
    left
    simp [List.splitOn_nil]
  | case3 line rest ih =>
    have returns := h '\r' List.mem_cons_self (by decide)
    exact absurd returns (by decide)
  | case4 line c rest other ends ih =>
    obtain ⟨first, others⟩ := List.forall_mem_cons.1 h
    obtain rfl := first ends
    have next := ih others
    rw [modifyHead_nil_append] at next
    have cut : ('\n' :: rest).splitOn '\n' = [] :: rest.splitOn '\n' := by
      simp [List.splitOn_eq_splitOnP, List.splitOnP_cons_eq_if_modifyHead]
    rw [cut, List.modifyHead_cons, List.append_nil, List.cons_append]
    exact next.imp (congrArg _) (congrArg _)
  | case5 line c rest other goes_on ih =>
    obtain ⟨-, others⟩ := List.forall_mem_cons.1 h
    have no_newline : c ≠ '\n' := by
      rintro rfl
      exact goes_on (by decide)
    have cut : (c :: rest).splitOn '\n' = (rest.splitOn '\n').modifyHead (c :: ·) := by
      simp [List.splitOn_eq_splitOnP, List.splitOnP_cons_eq_if_modifyHead, no_newline]
    have next := ih others
    rw [List.reverse_cons] at next
    rw [cut, List.modifyHead_modifyHead]
    simpa [Function.comp_def] using next

/-- Cut at newlines, a text without other line ends has the same lines, and an empty one more if a newline
ends it. -/
theorem splitOn_newline_cases {s : List Char} (h : ∀ c ∈ s, isLineBreak c = true → c = '\n') :
    s.splitOn '\n' = splitLines s ∨ s.splitOn '\n' = splitLines s ++ [[]] := by
  have := splitOn_newline_after [] h
  rwa [modifyHead_nil_append] at this

end ModuleAudit.Text
