import ModuleAudit.Checks.Cursor
import ModuleAudit.Proofs.Java.Call
import ModuleAudit.Proofs.Markup.Element

/-!
# The check of the method that marks the cursor fields

The check takes a body for a no-op if it finds none of the ways to mark cursor fields, and the body is blank or
has a log line or a bare return in it (`judgeBody_eq_noOp_iff`). What else the body does is not asked. So a body
that calls a method other than on the log is taken for a no-op exactly if there is a log line or a bare return
beside the call, and no sign of marking (`noOp_despite_work_iff`); `logged_work_is_noOp` is such a body.
-/

namespace ModuleAudit.Cursor

open ModuleAudit.Text (AllBlank isIdent isWord)
open ModuleAudit.Pattern (headIs)
open ModuleAudit.Java (CallAt Method OnReceiver Source)

/-! ## Words and what stands behind them -/

/-- Blanks and then a word. -/
def Behind (word : String) (t : List Char) : Prop := ∃ gap, AllBlank gap ∧ t = gap ++ word.toList

/-- A word of a kind, which is not the end of another word, stands in a text, and behind it something of
another kind. -/
def Stands (word tail : List Char → Prop) (s : List Char) : Prop :=
  ∃ x w t y, s = x ++ (w ++ t) ++ y ∧ headIs isWord x.reverse = false ∧ word w ∧ tail t

/-- One of the setters that mark a cursor field is called. -/
def CallsSetter (s : List Char) : Prop :=
  Stands (· ∈ ["setCursorField".toList, "setSourceCursorField".toList]) (Behind "(") s

/-- A word with a capital in front that ends in `Util` or `Helper`. -/
def IsHelper (w : List Char) : Prop :=
  ∃ c v, ∃ u ∈ ["Util".toList, "Helper".toList],
    w = c :: (v ++ u) ∧ ('A' ≤ c ∧ c ≤ 'Z') ∧ ∀ d ∈ v, isWord d = true

/-- Something is called on a class of helpers. -/
def UsesHelper (s : List Char) : Prop := Stands IsHelper (Behind ".") s

/-- The arguments of a call with `true`. -/
def IsTrue (t : List Char) : Prop :=
  ∃ u v w, t = u ++ (v ++ w) ∧ Behind "(" u ∧ Behind "true" v ∧ Behind ")" w

/-- The setter of cursor fields is called with `true`. -/
def MarksInline (s : List Char) : Prop := Stands (· = "setCursorField".toList) IsTrue s

/-- There is a log line or a return without a value. -/
def Idles (s : List Char) : Prop :=
  Stands (· = "log".toList) (Behind ".") s ∨ Stands (· = "return".toList) (Behind ";") s

/-- A row that starts with blanks and a word fits the word behind blanks and what fits the rest of the row. -/
theorem fits_gap_cons {p : Pattern} {ps : List Pattern} (word : String) {before t after : List Char}
    (h : ∀ {before w after}, p.Fits before w after ↔ w = word.toList) :
    (Pattern.sequence (.gap :: p :: ps)).Fits before t after ↔
      ∃ u v, t = u ++ v ∧ Behind word u ∧ (Pattern.sequence ps).Fits (u.reverse ++ before) v after := by
  simp only [Pattern.fits_sequence_cons, Pattern.fits_gap, h]
  constructor
  · rintro ⟨gap, _, rfl, blank, _, v, rfl, rfl, fit⟩
    refine ⟨gap ++ word.toList, v, (List.append_assoc ..).symm, ⟨gap, blank, rfl⟩, ?_⟩
    rwa [List.reverse_append, List.append_assoc]
  · rintro ⟨_, v, rfl, ⟨gap, blank, rfl⟩, fit⟩
    rw [List.reverse_append, List.append_assoc] at fit
    exact ⟨gap, word.toList ++ v, List.append_assoc .., blank, _, v, rfl, rfl, fit⟩

theorem fits_behind {p : Pattern} (word : String) {before t after : List Char}
    (h : ∀ {before w after}, p.Fits before w after ↔ w = word.toList) :
    (Pattern.sequence [.gap, p]).Fits before t after ↔ Behind word t := by
  simp [fits_gap_cons word h]

theorem headIs_left {w : List Char} (h : headIs isWord w = true) (y : List Char) :
    headIs isWord (w ++ y) = true := by
  cases w with
  | nil => cases h
  | cons c w => exact h

/-- A row of patterns at the start of a word finds what fits its first part and its second part. -/
theorem found_stands (ps qs : List Pattern) {word tail : List Char → Prop} {s : List Char}
    (first : ∀ {before w after}, (Pattern.sequence ps).Fits before w after ↔ word w)
    (rest : ∀ {before t after}, (Pattern.sequence qs).Fits before t after ↔ tail t)
    (start : ∀ w, word w → headIs isWord w = true) :
    (Pattern.sequence (.edge :: (ps ++ qs))).found s = true ↔ Stands word tail s := by
  simp only [Pattern.found_iff, Pattern.fits_sequence_cons, Pattern.fits_edge, Pattern.fits_sequence_append,
    first, rest]
  -- A word starts with a character of a word, so an edge in front of it says that none stands before.
  constructor
  · rintro ⟨x, _, y, rfl, _, _, rfl, ⟨rfl, edge⟩, w, t, rfl, fit, fit'⟩
    rw [List.append_assoc, headIs_left (start w fit), ne_eq, Bool.not_eq_true] at edge
    exact ⟨x, w, t, y, rfl, edge, fit, fit'⟩
  · rintro ⟨x, w, t, y, rfl, alone, fit, fit'⟩
    refine ⟨x, w ++ t, y, rfl, [], w ++ t, rfl, ⟨rfl, ?_⟩, w, t, rfl, fit, fit'⟩
    rw [alone, List.append_assoc, headIs_left (start w fit)]
    exact Bool.false_ne_true

theorem isWord_of_capital {c : Char} (h : 'A' ≤ c ∧ c ≤ 'Z') : isWord c = true := by
  refine Java.isWord_of_startsName (by simp [Java.startsName, h]) ?_
  rintro rfl
  exact absurd h.1 (by decide)

/-! ## What the check looks for -/

theorem found_anySetter {s : List Char} : anySetter.found s = true ↔ CallsSetter s := by
  refine found_stands [.word "set", .optional (.word "Source"), .word "CursorField"]
    [.gap, .exactly '('] ?_ (fits_behind "(" Pattern.fits_exactly) (by decide)
  intro before w after
  simp only [Pattern.fits_sequence_cons, Pattern.fits_sequence_nil, Pattern.fits_word, Pattern.fits_optional]
  constructor
  · rintro ⟨_, _, rfl, rfl, _, _, rfl, rfl | rfl, _, _, rfl, rfl, rfl⟩
    · exact .tail _ (.head _)
    · exact .head _
  · rintro (_ | ⟨_, _ | ⟨_, ⟨⟩⟩⟩)
    · exact ⟨_, _, rfl, rfl, [], _, rfl, .inr rfl, _, [], rfl, rfl, rfl⟩
    · exact ⟨_, _, rfl, rfl, _, _, rfl, .inl rfl, _, [], rfl, rfl, rfl⟩

theorem found_helperClass {s : List Char} : helperClass.found s = true ↔ UsesHelper s := by
  refine found_stands [.capture 1 (.sequence [
      .char fun c => 'A' ≤ c && c ≤ 'Z', .most Text.isWord, .oneOf [.word "Util", .word "Helper"]])]
    [.gap, .exactly '.'] ?_ (fits_behind "." Pattern.fits_exactly) ?_
  · intro before w after
    simp only [Pattern.fits_sequence_cons, Pattern.fits_sequence_nil, Pattern.fits_oneOf, Pattern.Fits,
      List.mem_cons, List.not_mem_nil, or_false, exists_eq_or_imp, exists_eq_left, Pattern.fits_word,
      Bool.and_eq_true, decide_eq_true_eq]
    constructor
    · rintro ⟨_, _, rfl, ⟨_, _, rfl, ⟨c, capital, rfl⟩, v, _, rfl, each, u, _, rfl, last, rfl⟩, rfl⟩
      exact ⟨c, v, u, by simpa using last, by simp, capital, each⟩
    · rintro ⟨c, v, u, last, rfl, capital, each⟩
      exact ⟨_, [], by simp, ⟨[c], _, rfl, ⟨c, capital, rfl⟩, v, u, rfl, each, u, [], by simp,
        by simpa using last, rfl⟩, rfl⟩
  · rintro _ ⟨c, v, u, -, rfl, capital, -⟩
    exact isWord_of_capital capital

theorem found_setTrue {s : List Char} : (setTrue "setCursorField").found s = true ↔ MarksInline s := by
  refine found_stands [.word "setCursorField"]
    [.gap, .exactly '(', .gap, .word "true", .gap, .exactly ')'] ?_ ?_ ?_
  · intro before w after
    simp
  · intro before t after
    constructor
    · intro fit
      obtain ⟨u, _, rfl, hu, fit⟩ := (fits_gap_cons "(" Pattern.fits_exactly).1 fit
      obtain ⟨v, w, rfl, hv, fit⟩ := (fits_gap_cons "true" Pattern.fits_word).1 fit
      exact ⟨u, v, w, rfl, hu, hv, (fits_behind ")" Pattern.fits_exactly).1 fit⟩
    · rintro ⟨u, v, w, rfl, hu, hv, hw⟩
      exact (fits_gap_cons "(" Pattern.fits_exactly).2 ⟨u, _, rfl, hu,
        (fits_gap_cons "true" Pattern.fits_word).2 ⟨v, w, rfl, hv, (fits_behind ")" Pattern.fits_exactly).2 hw⟩⟩
  · rintro _ rfl
    decide

theorem found_wordBefore {word : String} {c : Char} {s : List Char} (start : headIs isWord word.toList = true) :
    (Pattern.sequence [.edge, .word word, .gap, .exactly c]).found s = true ↔
      Stands (· = word.toList) (Behind (String.singleton c)) s := by
  refine found_stands [.word word] [.gap, .exactly c] ?_ (fits_behind _ ?_) ?_
  · intro before w after
    simp
  · intro before w after
    simp
  · rintro _ rfl
    exact start

theorem found_idleStatement {s : List Char} : idleStatement.found s = true ↔ Idles s := by
  have log : (Pattern.sequence [.edge, .word "log", .gap, .exactly '.']).found s = true ↔
      Stands (· = "log".toList) (Behind ".") s := found_wordBefore (by decide)
  have back : (Pattern.sequence [.edge, .word "return", .gap, .exactly ';']).found s = true ↔
      Stands (· = "return".toList) (Behind ";") s := found_wordBefore (by decide)
  rw [Idles, ← log, ← back, idleStatement]
  simp only [Pattern.found_iff, Pattern.fits_oneOf, List.mem_cons, List.not_mem_nil, or_false,
    exists_eq_or_imp, exists_eq_left, and_or_left, exists_or]

/-! ## The verdict on a body -/

/-- The verdict that a body does nothing. -/
def noOp : Verdict := .violation "identifyCursorFields() is a no-op; incremental sync is not supported"

/-- A body is taken for a no-op exactly if no way to mark cursor fields is found, and it is blank or has a log
line or a bare return in it. -/
theorem judgeBody_eq_noOp_iff {body : List Char} {inline : Bool} :
    judgeBody body inline = noOp ↔
      ¬ CallsSetter body ∧ ¬ UsesHelper body ∧ inline = false ∧ (AllBlank body ∨ Idles body) := by
  -- All other verdicts of the check come with a severity.
  have told (severity : Severity) (message : String) : ¬ (⟨some severity, message⟩ : Verdict) = noOp :=
    fun same => nomatch congrArg Verdict.severity same
  rw [judgeBody, ← found_anySetter, ← found_helperClass, ← found_idleStatement, ← Text.isEmpty_trim_iff,
    ← Bool.or_eq_true]
  by_cases setter : anySetter.found body = true
  · rw [if_pos setter]
    refine iff_of_false ?_ fun h => h.1 setter
    cases unset flags body <;> exact told _ _
  have found : helperClass.found body = (helperClass.search? body).isSome := rfl
  rw [if_neg setter, found]
  rcases helperClass.search? body with _ | m
  · cases inline with
    | true => exact iff_of_false (told _ _) fun h => nomatch h.2.2.1
    | false =>
      rw [if_neg Bool.false_ne_true]
      by_cases idle : ((Text.trim body).isEmpty || idleStatement.found body) = true
      · rw [if_pos idle]
        exact iff_of_true rfl ⟨setter, Bool.false_ne_true, rfl, idle⟩
      · rw [if_neg idle]
        exact iff_of_false (told _ _) fun h => idle h.2.2.2
  · exact iff_of_false (told _ _) fun h => h.2.1 rfl

/-! ## Work -/

/-- The words that Java keeps for itself, the names of its constants included. -/
def keywords : List (List Char) :=
  ["_", "abstract", "assert", "boolean", "break", "byte", "case", "catch", "char", "class", "const", "continue",
    "default", "do", "double", "else", "enum", "extends", "false", "final", "finally", "float", "for", "goto", "if",
    "implements", "import", "instanceof", "int", "interface", "long", "native", "new", "null", "package", "private",
    "protected", "public", "return", "short", "static", "strictfp", "super", "switch", "synchronized", "this",
    "throw", "throws", "transient", "true", "try", "void", "volatile", "while"].map String.toList

/-- A name that may be called. -/
structure IsCallee (w : List Char) : Prop where
  run : IsRun isIdent w
  head : headIs Char.isDigit w = false
  notKeyword : w ∉ keywords

/-- What stands to the left of an offset is the receiver `log` and its dot. -/
def OnLog (s : List Char) (k : Nat) : Prop :=
  ∃ x gap gap', s.take k = x ++ ("log".toList ++ gap ++ '.' :: gap') ∧ headIs isIdent x.reverse = false ∧
    AllBlank gap ∧ AllBlank gap'

/-- A method is called, and not on the receiver `log`. -/
def Works (s : List Char) : Prop := ∃ w k, IsCallee w ∧ CallAt w s k ∧ ¬ OnLog s k

theorem OnLog.onReceiver {s : List Char} {k : Nat} (h : OnLog s k) : OnReceiver s k := by
  obtain ⟨x, gap, gap', split, -, -, blank⟩ := h
  exact ⟨x ++ "log".toList ++ gap, gap', by simp [split], blank⟩

/-- A body that calls something is not blank: the parenthesis of the call is in it. -/
theorem Works.not_allBlank {s : List Char} (h : Works s) : ¬ AllBlank s := by
  obtain ⟨w, k, -, ⟨x, gap, y, rfl, -⟩, -⟩ := h
  intro blank
  exact absurd (blank '(' (by simp)) (by decide)

/-- A call without a receiver is work. -/
theorem works_of_call {s : List Char} (x w gap y : List Char) (split : s = x ++ (w ++ gap ++ ['('] ++ y))
    (callee : IsCallee w) (blank : AllBlank gap) (alone : headIs isIdent x.reverse = false)
    (free : Source.afterDot x.reverse = false) : Works s := by
  refine ⟨w, x.length, callee, ⟨x, gap, y, split, rfl, alone, blank⟩, fun onLog => ?_⟩
  have place : (⟨x.reverse, w ++ gap ++ ['('] ++ y, x.length, []⟩ : Place).In s :=
    ⟨by rw [List.reverse_reverse, split], List.length_reverse.symm⟩
  have dot := (Java.onReceiver_iff place).1 onLog.onReceiver
  exact absurd dot (Bool.eq_false_iff.1 free)

theorem identification_eq {f : FileSet} {m : Method}
    (declared : f.primary.method? "identifyCursorFields" = some m) (settings : Settings) :
    identification f settings = pure (judgeBody m.bare (inlineIn f.primary)) := by
  rw [identification, Check.ofFiles, declared]

/-- A body that calls a method other than on the log is taken for a no-op exactly if there is a log line or a bare
return beside the call, and nothing that marks cursor fields is found. -/
theorem noOp_despite_work_iff {f : FileSet} {m : Method}
    (declared : f.primary.method? "identifyCursorFields" = some m) (works : Works m.bare) (settings : Settings) :
    ∃ v, identification f settings = pure v ∧
      (v = noOp ↔ Idles m.bare ∧
        ¬ CallsSetter m.bare ∧ ¬ UsesHelper m.bare ∧ ¬ MarksInline f.primary.code) := by
  refine ⟨_, identification_eq declared settings, ?_⟩
  have inline : inlineIn f.primary = false ↔ ¬ MarksInline f.primary.code := by
    rw [← found_setTrue, Bool.not_eq_true, inlineIn]
  rw [judgeBody_eq_noOp_iff, inline, or_iff_right works.not_allBlank]
  tauto

/-- A body with an early return that marks fields by the names of a class of helpers. -/
theorem noOp_despite_work_iff_helper :
    let body := " if (done) return; mark(KeyUtil.ALL); "
    let f : FileSet := {
      module := ⟨⟨0, []⟩, "acme"⟩
      primary := .ofText ⟨0, ["AcmeConnector.java"]⟩
        ("class A \x7b void identifyCursorFields() \x7b" ++ body ++ "\x7d \x7d").toList }
    ∃ m, f.primary.method? "identifyCursorFields" = some m ∧ m.bare = body.toList ∧ Works m.bare ∧ Idles m.bare ∧
      ∀ settings, ∃ v, identification f settings = pure v ∧ v ≠ noOp := by
  intro body f
  obtain ⟨m, declared, bare⟩ : ∃ m, f.primary.method? "identifyCursorFields" = some m ∧ m.bare = body.toList :=
    Option.map_eq_some_iff.1 (by decide +kernel)
  have works : Works m.bare := by
    rw [bare]
    exact works_of_call " if (done) return; ".toList "mark".toList [] "KeyUtil.ALL); ".toList (by decide)
      ⟨⟨by decide, List.all_eq_true.1 (by decide)⟩, by decide, by decide⟩ nofun (by decide) (by decide)
  have idles : Idles m.bare := by
    rw [← found_idleStatement, bare]
    decide +kernel
  have helper : UsesHelper m.bare := by
    rw [← found_helperClass, bare]
    decide +kernel
  refine ⟨m, declared, bare, works, idles, fun settings => ?_⟩
  obtain ⟨v, run, iff⟩ := noOp_despite_work_iff declared works settings
  exact ⟨v, run, fun same => (iff.1 same).2.2.1 helper⟩

/-- A body that marks the fields by another method and logs that it is done is taken for a no-op. -/
theorem logged_work_is_noOp :
    let body := " markFields(o); log.debug(\"    \"); "
    let f : FileSet := {
      module := ⟨⟨0, []⟩, "acme"⟩
      primary := .ofText ⟨0, ["AcmeConnector.java"]⟩
        ("class AcmeConnector \x7b void identifyCursorFields(ObjectMetadata o) " ++
          "\x7b markFields(o); log.debug(\"done\"); \x7d \x7d").toList }
    ∃ m, f.primary.method? "identifyCursorFields" = some m ∧ m.bare = body.toList ∧ Works m.bare ∧
      ∀ settings, identification f settings = pure noOp := by
  intro body f
  obtain ⟨m, declared, bare⟩ : ∃ m, f.primary.method? "identifyCursorFields" = some m ∧ m.bare = body.toList :=
    Option.map_eq_some_iff.1 (by decide +kernel)
  refine ⟨m, declared, bare, ?_, fun settings => ?_⟩
  · rw [bare]
    exact works_of_call " ".toList "markFields".toList [] "o); log.debug(\"    \"); ".toList (by decide)
      ⟨⟨by decide, List.all_eq_true.1 (by decide)⟩, by decide, by decide⟩ nofun (by decide) (by decide)
  · rw [identification_eq declared, bare]
    exact congrArg pure (by decide +kernel)

end ModuleAudit.Cursor
