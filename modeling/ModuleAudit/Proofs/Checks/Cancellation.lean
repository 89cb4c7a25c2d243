import Mathlib.Order.Bounds.Defs
import ModuleAudit.Checks.Cancellation
import ModuleAudit.Proofs.Java.Declaration
import ModuleAudit.Proofs.Text.Lines

/-!
# The check that a cancelled run is not tried again

The check cuts the text into lines at every kind of line end. A line is suppressed (`Suppressed`) if it speaks
of a cancelled run and a line near it goes on instead of passing an error on; a violation names the first such
line (`exists_tells`).

* `neverRetried_tells`: the number in the message runs ahead of the line number by the line ends that are no
  newlines. Without those the verdict is right for the lines between newlines;
* `form_feed_moves_line`: with a form feed the message names another line.
-/

namespace ModuleAudit

open ModuleAudit.Text (isWord isLineBreak splitLines otherEnds lineNumber HasLine)
open ModuleAudit.Pattern (headIs sameLetter)
open ModuleAudit.Java (Source)

/-! ## Words of a line -/

/-- A word stands in a line by itself: its characters are each the same as the word's in the sense given,
and no character of a word is next to them. -/
def HasWord (same : Char → Char → Prop) (word : String) (line : List Char) : Prop :=
  ∃ x u y, line = x ++ u ++ y ∧ List.Forall₂ same word.toList u ∧
    headIs isWord x.reverse = false ∧ headIs isWord y = false

theorem HasWord.ne_nil {same : Char → Char → Prop} {word : String} {line : List Char}
    (h : HasWord same word line) (letters : word.toList ≠ []) : line ≠ [] := by
  obtain ⟨x, u, y, rfl, same, -⟩ := h
  intro empty
  simp only [List.append_eq_nil_iff] at empty
  rw [empty.1.2, List.forall₂_nil_right_iff] at same
  exact letters same

/-- Letters without accents are characters of a word. -/
theorem isWord_of_isAlpha {c : Char} (h : c.isUpper = true ∨ c.isLower = true) : isWord c = true := by
  have ascii : c.val < 0x80 := by
    rcases h with upper | lower
    · have range : c.val ≥ 'A'.val ∧ c.val ≤ 'Z'.val := of_decide_eq_true upper
      exact UInt32.lt_of_le_of_lt range.2 (by decide)
    · have range : c.val ≤ 'z'.val := of_decide_eq_true (Bool.and_eq_true_iff.1 lower).2
      exact UInt32.lt_of_le_of_lt range (by decide)
  have letter : c.isAlphanum = true := by
    show (c.isUpper || c.isLower || c.isDigit) = true
    rcases h with upper | lower
    · rw [upper]
      rfl
    · rw [lower, Bool.or_true]
      rfl
  rw [isWord, Text.isAlphanumeric, if_pos ascii, letter]
  rfl

/-- A small letter has forms that are characters of a word. -/
theorem isWord_of_sameLetter {small c : Char} (letter : small.isLower = true)
    (same : sameLetter small c = true) : isWord c = true := by
  simp only [sameLetter, Bool.or_eq_true, Bool.and_eq_true, beq_iff_eq] at same
  rcases same with (((rfl | lower) | ⟨-, rfl⟩) | ⟨-, rfl⟩) | ⟨-, rfl | rfl⟩
  · exact isWord_of_isAlpha (.inr letter)
  · by_cases upper : c.isUpper = true
    · exact isWord_of_isAlpha (.inl upper)
    · have fixed : c.toLower = c := dif_neg fun range => upper (decide_eq_true range)
      rw [← lower, fixed] at letter
      exact isWord_of_isAlpha (.inr letter)
  all_goals decide +kernel

/-- Between two edges a pattern of word characters finds what has none of them next to it. -/
theorem found_between_edges {p : Pattern} {line : List Char}
    (run : ∀ {before w after}, p.Fits before w after → IsRun isWord w) :
    (Pattern.sequence [.edge, p, .edge]).found line = true ↔
      ∃ x u y, line = x ++ u ++ y ∧ p.Fits x.reverse u y ∧
        headIs isWord x.reverse = false ∧ headIs isWord y = false := by
  rw [Pattern.found_iff]
  -- The run starts and ends with a character of a word, so an edge is where no other one follows.
  have inner {before u y : List Char} (fit : p.Fits before u y) (rest : List Char) :
      headIs isWord (u ++ rest) = true ∧ headIs isWord (u.reverse ++ rest) = true := by
    obtain ⟨nonempty, each⟩ := run fit
    constructor
    · obtain ⟨c, u, rfl⟩ := List.exists_cons_of_ne_nil nonempty
      exact each c List.mem_cons_self
    · obtain ⟨u, c, rfl⟩ := List.eq_nil_or_concat u |>.resolve_left nonempty
      rw [List.concat_eq_append, List.reverse_concat]
      exact each c (by simp)
  constructor
  · rintro ⟨x, w, y, rfl, fit⟩
    simp only [Pattern.fits_sequence_cons, Pattern.fits_sequence_nil, Pattern.fits_edge] at fit
    obtain ⟨_, _, rfl, ⟨rfl, front⟩, u, _, rfl, fit, _, _, rfl, ⟨rfl, back⟩, rfl⟩ := fit
    simp only [List.reverse_nil, List.nil_append, List.append_nil] at front fit back
    rw [(inner fit _).1, ne_eq, Bool.not_eq_true] at front
    rw [(inner fit _).2, ne_comm, ne_eq, Bool.not_eq_true] at back
    exact ⟨x, u, y, by simp, fit, front, back⟩
  · rintro ⟨x, u, y, rfl, fit, front, back⟩
    refine ⟨x, u, y, rfl, ?_⟩
    simp only [Pattern.fits_sequence_cons, Pattern.fits_sequence_nil, Pattern.fits_edge]
    refine ⟨[], u, rfl, ⟨rfl, ?_⟩, u, [], by simp, fit, [], [], rfl, ⟨rfl, ?_⟩, rfl⟩
    · rw [front, (inner fit _).1]
      exact Bool.false_ne_true
    · simp only [List.reverse_nil, List.nil_append]
      rw [back, (inner fit _).2]
      exact Bool.false_ne_true.symm

/-- The letters of a word of small letters in any case are a run of characters of a word. -/
theorem isRun_of_sameLetters {letters w : List Char} (small : IsRun Char.isLower letters)
    (same : List.Forall₂ (sameLetter · · = true) letters w) : IsRun isWord w := by
  constructor
  · rintro rfl
    exact small.nonempty (List.forall₂_nil_right_iff.1 same)
  · have each := small.each
    clear small
    induction same with
    | nil => exact List.forall_mem_nil _
    | cons same _ ih =>
      obtain ⟨letter, each⟩ := List.forall_mem_cons.1 each
      exact List.forall_mem_cons.2 ⟨isWord_of_sameLetter letter same, ih each⟩

theorem found_words (ws : List String) {line : List Char}
    (letters : ∀ w ∈ ws, IsRun Char.isLower w.toList) :
    (Pattern.sequence [.edge, .oneOf (ws.map .anyCase), .edge]).found line = true ↔
      ∃ w ∈ ws, HasWord (sameLetter · · = true) w line := by
  have fits {before u after : List Char} : (Pattern.oneOf (ws.map .anyCase)).Fits before u after ↔
      ∃ w ∈ ws, List.Forall₂ (sameLetter · · = true) w.toList u := by
    simp only [Pattern.fits_oneOf, List.mem_map, exists_exists_and_eq_and, Pattern.fits_anyCase]
  rw [found_between_edges]
  · simp only [fits, HasWord]
    constructor
    · rintro ⟨x, u, y, split, ⟨w, mem, same⟩, alone⟩
      exact ⟨w, mem, x, u, y, split, same, alone⟩
    · rintro ⟨w, mem, x, u, y, split, same, alone⟩
      exact ⟨x, u, y, split, ⟨w, mem, same⟩, alone⟩
  · intro before u after fit
    obtain ⟨w, mem, same⟩ := fits.1 fit
    exact isRun_of_sameLetters (letters w mem) same

/-! ## Lines near one another -/

namespace Cancellation

/-- A line goes on instead of passing an error on. -/
def GoesOn (line : List Char) : Prop :=
  (∃ w ∈ ["retry", "continue", "break"], HasWord (sameLetter · · = true) w line) ∧
    ¬ ∃ w ∈ ["throw", "rethrow"], HasWord (sameLetter · · = true) w line

/-- The line with an index speaks of a cancelled run, and a line at most five lines away goes on. -/
def Suppressed (lines : List (List Char)) (i : Nat) : Prop :=
  ∃ line, lines[i]? = some line ∧ HasWord Eq "CANCELLED" line ∧
    ∃ j near, lines[j]? = some near ∧ i ≤ j + 5 ∧ j ≤ i + 5 ∧ GoesOn near

variable {lines : List (List Char)} {line : List Char} {i : Nat}

theorem cancelled_found : cancelled.found line = true ↔ HasWord Eq "CANCELLED" line := by
  rw [cancelled, found_between_edges]
  · simp only [HasWord, List.forall₂_eq_eq_eq, Pattern.fits_word, eq_comm]
  · intro before w after fit
    obtain rfl := Pattern.fits_word.1 fit
    decide

theorem suppresses_iff : suppresses line = true ↔ GoesOn line := by
  have retry : retryWord.found line = true ↔ _ := found_words ["retry", "continue", "break"] (by decide)
  have rethrow : rethrowWord.found line = true ↔ _ := found_words ["throw", "rethrow"] (by decide)
  rw [suppresses, Bool.and_eq_true, Bool.not_eq_true', ← Bool.not_eq_true]
  exact and_congr retry (not_congr rethrow)

theorem mem_around : line ∈ around lines i ↔ ∃ j, lines[j]? = some line ∧ i ≤ j + 5 ∧ j ≤ i + 5 := by
  rw [around, List.mem_iff_getElem?]
  simp only [List.getElem?_drop, List.getElem?_take, reach]
  constructor
  · rintro ⟨k, found⟩
    split at found
    · exact ⟨i - 5 + k, found, by omega, by omega⟩
    · cases found
  · rintro ⟨j, found, before, after⟩
    refine ⟨j - (i - 5), ?_⟩
    rw [if_pos (by omega), Nat.add_sub_cancel' (by omega)]
    exact found

theorem suppressed_iff : Suppressed lines i ↔
    ∃ line, lines[i]? = some line ∧ (cancelled.found line && (around lines i).any suppresses) = true := by
  refine exists_congr fun line => and_congr_right fun _ => ?_
  rw [Bool.and_eq_true, cancelled_found, List.any_eq_true]
  refine and_congr_right fun _ => ?_
  simp only [mem_around, suppresses_iff]
  constructor
  · rintro ⟨j, near, found, before, after, goes_on⟩
    exact ⟨near, ⟨j, found, before, after⟩, goes_on⟩
  · rintro ⟨near, ⟨j, found, before, after⟩, goes_on⟩
    exact ⟨j, near, found, before, after, goes_on⟩

/-- The search gives the least index from where it starts. -/
theorem of_firstSuppressed {rest : List (List Char)} (h : lines.drop i = rest) :
    (∀ k, firstSuppressed lines i rest = some k →
      Suppressed lines k ∧ ∀ j, Suppressed lines j → i ≤ j → k ≤ j) ∧
    (firstSuppressed lines i rest = none → ∀ j, Suppressed lines j → j < i) := by
  fun_induction firstSuppressed lines i rest with
  | case1 i =>
    refine ⟨nofun, fun _ j ⟨line, found, _⟩ => ?_⟩
    have inside := (List.getElem?_eq_some_iff.1 found).1
    exact Nat.lt_of_lt_of_le inside (List.drop_eq_nil_iff.1 h)
  | case2 i line rest holds =>
    have found : lines[i]? = some line := by rw [← List.head?_drop, h, List.head?_cons]
    refine ⟨?_, nofun⟩
    rintro k ⟨⟩
    exact ⟨suppressed_iff.2 ⟨line, found, holds⟩, fun j _ later => later⟩
  | case3 i line rest fails ih =>
    have found : lines[i]? = some line := by rw [← List.head?_drop, h, List.head?_cons]
    have not_here : ¬ Suppressed lines i := by
      rw [suppressed_iff]
      rintro ⟨other, found', holds⟩
      obtain rfl := Option.some.inj (found.symm.trans found')
      exact fails holds
    obtain ⟨some_case, none_case⟩ := ih (by rw [← List.tail_drop, h, List.tail_cons])
    constructor
    · intro k result
      obtain ⟨here, least⟩ := some_case k result
      refine ⟨here, fun j suppressed later => least j suppressed ?_⟩
      exact Nat.lt_of_le_of_ne later fun e => not_here (e ▸ suppressed)
    · intro result j suppressed
      refine Nat.lt_of_le_of_ne (Nat.le_of_lt_succ (none_case result j suppressed)) ?_
      exact fun e => not_here (e ▸ suppressed)

theorem firstSuppressed_eq_some (h : firstSuppressed lines 0 lines = some i) :
    IsLeast {i | Suppressed lines i} i := by
  obtain ⟨here, least⟩ := (of_firstSuppressed rfl).1 i h
  exact ⟨here, fun j suppressed => least j suppressed j.zero_le⟩

theorem firstSuppressed_eq_none (h : firstSuppressed lines 0 lines = none) : ¬ Suppressed lines i :=
  fun suppressed => Nat.not_lt_zero i ((of_firstSuppressed rfl).2 h i suppressed)

theorem GoesOn.ne_nil (h : GoesOn line) : line ≠ [] := by
  have letters : ∀ w ∈ ["retry", "continue", "break"], w.toList ≠ [] := by decide
  obtain ⟨w, mem, has⟩ := h.1
  exact has.ne_nil (letters w mem)

/-- A line more that is empty makes no difference. -/
theorem suppressed_append_nil : Suppressed (lines ++ [[]]) i ↔ Suppressed lines i := by
  have inside {k : Nat} {l : List Char} (found : (lines ++ [[]])[k]? = some l) (nonempty : l ≠ []) :
      lines[k]? = some l := by
    rw [List.getElem?_append] at found
    split at found
    · exact found
    · have mem := List.mem_of_getElem? found
      exact absurd (List.mem_singleton.1 mem) nonempty
  have still {k : Nat} {l : List Char} (found : lines[k]? = some l) : (lines ++ [[]])[k]? = some l := by
    rw [List.getElem?_append_left (List.getElem?_eq_some_iff.1 found).1, found]
  constructor
  · rintro ⟨line, found, speaks, j, near, found', before, after, goes_on⟩
    exact ⟨line, inside found (speaks.ne_nil (by decide)), speaks, j, near,
      inside found' goes_on.ne_nil, before, after, goes_on⟩
  · rintro ⟨line, found, speaks, j, near, found', before, after, goes_on⟩
    exact ⟨line, still found, speaks, j, near, still found', before, after, goes_on⟩

/-! ## The verdict -/

/-- The verdict is a violation exactly if some line is suppressed, and then it names the first one, counting
from one. -/
structure Tells (lines : List (List Char)) (v : Verdict) : Prop where
  violation_iff : v.severity = none ↔ ∃ i, Suppressed lines i
  names : ∀ i, IsLeast {i | Suppressed lines i} i →
    v = .violation s!"CANCELLED near line {i + 1} may be retried or suppressed; always rethrow it"

/-- The text speaks of a cancelled run right behind `x`. -/
def SpeaksBehind (x text : List Char) : Prop :=
  ∃ y, text = x ++ ("CANCELLED".toList ++ y) ∧ headIs isWord x.reverse = false ∧ headIs isWord y = false

theorem Tells.of_iff {lines lines' : List (List Char)} {v : Verdict} (h : Tells lines v)
    (same : ∀ i, Suppressed lines' i ↔ Suppressed lines i) : Tells lines' v := by
  have same : Suppressed lines' = Suppressed lines := funext fun i => propext (same i)
  exact ⟨same ▸ h.violation_iff, same ▸ h.names⟩

theorem exists_tells (f : FileSet) (settings : Settings) :
    ∃ v, neverRetried f settings = pure v ∧ Tells (splitLines f.primary.bare) v := by
  refine ⟨_, rfl, ?_⟩
  dsimp only
  generalize splitLines f.primary.bare = lines
  split
  next unspoken =>
    have never : ¬ ∃ i, Suppressed lines i := by
      rintro ⟨i, line, found, speaks, -⟩
      have any : lines.any cancelled.found = true :=
        List.any_eq_true.2 ⟨line, List.mem_of_getElem? found, cancelled_found.2 speaks⟩
      rw [any] at unspoken
      cases unspoken
    exact ⟨iff_of_false nofun never, fun i least => absurd ⟨i, least.1⟩ never⟩
  next =>
    split
    next i result =>
      have least := firstSuppressed_eq_some result
      exact ⟨iff_of_true rfl ⟨i, least.1⟩, fun j least' => by rw [least'.unique least]⟩
    next result =>
      have never : ¬ ∃ i, Suppressed lines i := fun ⟨i, suppressed⟩ =>
        firstSuppressed_eq_none result suppressed
      exact ⟨iff_of_false nofun never, fun i least => absurd ⟨i, least.1⟩ never⟩

theorem isWord_of_isLineBreak {c : Char} (h : isLineBreak c = true) : isWord c = false := by
  refine Java.isWord_of_isIdent (Java.isIdent_of_isBlank ?_)
  simp only [isLineBreak, Text.isBlank, Bool.or_eq_true, Bool.and_eq_true, decide_eq_true_eq,
    beq_iff_eq] at h ⊢
  omega

theorem headIs_isWord_append {s t : List Char} (first : headIs isWord s = false)
    (next : ∀ c ∈ t.head?, isWord c = false) : headIs isWord (s ++ t) = false := by
  cases s with
  | nil =>
    cases t with
    | nil => rfl
    | cons c t => exact next c rfl
  | cons c s => exact first

/-- What stands in a line by itself stands in the text by itself. -/
theorem speaksBehind_of_hasLine {text : List Char} (h : HasLine text i line)
    (speaks : HasWord Eq "CANCELLED" line) :
    ∃ x, SpeaksBehind x text ∧ x.count '\n' + otherEnds x = i := by
  obtain ⟨one_line, x, y, rfl, front, back, rfl⟩ := h
  obtain ⟨a, u, b, rfl, same, front', back'⟩ := speaks
  rw [List.forall₂_eq_eq_eq] at same
  obtain rfl := same
  have plain : ∀ c ∈ a, isLineBreak c = false := fun c mem => one_line c (by simp [mem])
  refine ⟨x ++ a, ⟨b ++ y, by simp, ?_, ?_⟩, ?_⟩
  · rw [List.reverse_append]
    exact headIs_isWord_append front' fun c mem => isWord_of_isLineBreak (front c (by simpa using mem))
  · exact headIs_isWord_append back' fun c mem => isWord_of_isLineBreak (back c mem)
  · rw [List.count_append, Text.otherEnds_append_right x plain, Text.count_newline_eq_zero plain,
      Nat.add_zero]

/-- The verdict is right for the lines that the text is cut into. The number in the message is the one of the
line that speaks of a cancelled run, and one more for each line end before it that is no newline. Where there
are none of these, the verdict is right for the lines between newlines, and the number is the line's. -/
theorem neverRetried_tells (f : FileSet) (settings : Settings) :
    ∃ v, neverRetried f settings = pure v ∧ Tells (splitLines f.primary.bare) v ∧
      (∀ i, Suppressed (splitLines f.primary.bare) i → ∃ x, SpeaksBehind x f.primary.bare ∧
        i + 1 = f.primary.lineOf x.length + otherEnds x) ∧
      ((∀ c ∈ f.primary.bare, isLineBreak c = true → c = '\n') →
        Tells (f.primary.bare.splitOn '\n') v ∧
        ∀ i, Suppressed (f.primary.bare.splitOn '\n') i → ∃ x, SpeaksBehind x f.primary.bare ∧
          i + 1 = f.primary.lineOf x.length) := by
  obtain ⟨v, run, tells⟩ := exists_tells f settings
  have place : ∀ i, Suppressed (splitLines f.primary.bare) i → ∃ x, SpeaksBehind x f.primary.bare ∧
      i + 1 = f.primary.lineOf x.length + otherEnds x := by
    rintro i ⟨line, found, speaks, -⟩
    obtain ⟨x, behind, rfl⟩ := speaksBehind_of_hasLine (Text.hasLine_of_splitLines found) speaks
    refine ⟨x, behind, ?_⟩
    obtain ⟨y, split, -⟩ := behind
    rw [Source.lineOf, ← Java.lineNumber_bareOf, ← Source.bare_eq, split, lineNumber, List.take_left']
    · omega
    · rfl
  refine ⟨v, run, tells, place, fun newlines => ?_⟩
  have same : ∀ i, Suppressed (f.primary.bare.splitOn '\n') i ↔
      Suppressed (splitLines f.primary.bare) i := by
    intro i
    rcases Text.splitOn_newline_cases newlines with cut | cut
    · rw [cut]
    · rw [cut, suppressed_append_nil]
  refine ⟨tells.of_iff same, fun i suppressed => ?_⟩
  obtain ⟨x, behind, number⟩ := place i ((same i).1 suppressed)
  refine ⟨x, behind, ?_⟩
  obtain ⟨y, split, -⟩ := behind
  have none : otherEnds x = 0 := Text.otherEnds_eq_zero fun c mem => newlines c (by simp [split, mem])
  rw [number, none, Nat.add_zero]

/-- The line that goes on is the last one in reach, and a comment between the two speaks of throwing. -/
theorem neverRetried_tells_in_reach :
    let text := "class A \x7b\n  int n = CANCELLED; // throw\n\n\n\n\n  void f() \x7b Retry(); \x7d\n\x7d"
    let f : FileSet := { module := ⟨⟨0, []⟩, "a"⟩, primary := .ofText ⟨0, ["AConnector.java"]⟩ text.toList }
    (∀ c ∈ f.primary.bare, isLineBreak c = true → c = '\n') ∧
      ∃ v, neverRetried f {} = pure v ∧ Tells (f.primary.bare.splitOn '\n') v ∧
        ∀ i, Suppressed (f.primary.bare.splitOn '\n') i → ∃ x, SpeaksBehind x f.primary.bare ∧
          i + 1 = f.primary.lineOf x.length := by
  intro text f
  have each : f.primary.bare.all (fun c => !isLineBreak c || c == '\n') = true := by decide +kernel
  have newlines : ∀ c ∈ f.primary.bare, isLineBreak c = true → c = '\n' := fun c mem ends => by
    simpa [ends] using List.all_eq_true.1 each c mem
  obtain ⟨v, run, -, -, same⟩ := neverRetried_tells f {}
  exact ⟨newlines, v, run, same newlines⟩

/-- A form feed on a line of its own counts as two line ends with the newline behind it: the message names
the line after the one that speaks of a cancelled run. -/
theorem form_feed_moves_line :
    let text := "class A \x7b\n\x0c\n  void f() \x7b if (CANCELLED) retry(); \x7d\n\x7d"
    let f : FileSet := { module := ⟨⟨0, []⟩, "a"⟩, primary := .ofText ⟨0, ["AConnector.java"]⟩ text.toList }
    neverRetried f {} =
        pure (.violation "CANCELLED near line 4 may be retried or suppressed; always rethrow it") ∧
      IsLeast {i | Suppressed (f.primary.bare.splitOn '\n') i} 2 := by
  intro text f
  constructor
  · refine congrArg (fun v : Verdict => (pure v : Inspect Verdict)) ?_
    decide +kernel
  · refine firstSuppressed_eq_some ?_
    decide +kernel

end Cancellation

end ModuleAudit
