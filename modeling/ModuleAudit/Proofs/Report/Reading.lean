import ModuleAudit.Proofs.Report.Lines

/-!
# Reading the text of a report back

A reader takes the text of a report apart at its newlines and reads line by line (`entries`): a line with
a mark is a finding, the nearest heading above tells its group, and a fix may stand in the line below.

* `entries_bodyLines`: the lines of findings read back, whatever plain lines follow;
* `filter_allLines`, `numbers_allLines`: only findings have marks, and the summary tells their numbers;
* `text_reads_back`: so the text of a legible report loses nothing.
-/

namespace ModuleAudit.Report

variable {f : Finding} {fs : List Finding} {r : Report}

/-! ## The reader -/

/-- What a reader learns of a finding. -/
structure Entry where
  group : Option String
  severity : Severity
  ruleId : String
  words : String
  fix : Option String
  deriving DecidableEq, Repr

/-- What there is to learn of a finding. -/
def Entry.ofFinding (f : Finding) : Entry := ⟨f.group.text?, f.severity, f.ruleId, f.words, f.fix?⟩

/-- The marks, each with its severity. -/
def marks : List (String × Severity) :=
  [("[PASS]", .pass), ("[WARN]", .warn), ("[FAIL]", .fail), ("[SKIP]", .skip)]

/-- The severity with the mark that a line begins with, and what stands behind the mark. -/
def marked? (line : List Char) : Option (Severity × List Char) :=
  marks.findSome? fun (word, severity) => (line.dropPrefix? word.toList).map fun rest => (severity, rest)

/-- The group of which a line is the heading. -/
def heading? (line : List Char) : Option String := do
  let rest ← line.dropPrefix? "== ".toList
  return String.ofList (← rest.dropSuffix? " ==".toList)

/-- The fix that a line tells. -/
def fixLine? (line : List Char) : Option String :=
  (line.dropPrefix? "       fix: ".toList).map String.ofList

/-- The findings of some lines below the heading of a group. -/
def entries (group : Option String) : List (List Char) → List Entry
  | [] => []
  | line :: rest =>
    match marked? line with
    | some (severity, words) =>
      let words := words.drop 1
      { group
        severity
        ruleId := String.ofList (words.takeWhile (· != ' '))
        words := String.ofList ((words.dropWhile (· != ' ')).drop 1)
        fix := rest.head?.bind fixLine? } :: entries group rest
    | none => entries ((heading? line).or group) rest

/-- The number that some digits stand for. -/
def number? (digits : List Char) : Option Nat :=
  if digits ≠ [] ∧ digits.all Char.isDigit then some (Nat.ofDigitChars 10 digits 0) else none

/-- The numbers that the lines with a label tell. -/
def numbers (label : String) (lines : List (List Char)) : List (Option Nat) :=
  lines.filterMap fun line =>
    (line.dropPrefix? label.toList).map fun rest => number? (rest.dropWhile (· == ' '))

/-! ### Single lines -/

/-- The line has no mark and is no heading. -/
def Plain (line : List Char) : Prop := line.head? ≠ some '[' ∧ line.head? ≠ some '='

section Line

variable {line : List Char} {group : Option String} {rest : List (List Char)}

theorem marked?_mark (severity : Severity) (behind : List Char) :
    marked? ((mark severity).toList ++ behind) = some (severity, behind) := by
  cases severity <;> simp [marked?, marks, mark, List.dropPrefix?]

theorem Plain.marked?_eq (h : Plain line) : marked? line = none := by
  cases line with
  | nil => rfl
  | cons c line =>
    have other : (c == '[') = false := by simpa [Plain] using h.1
    simp [marked?, marks, List.dropPrefix?, other]

theorem Plain.heading?_eq (h : Plain line) : heading? line = none := by
  cases line with
  | nil => rfl
  | cons c line =>
    have other : (c == '=') = false := by simpa [Plain] using h.2
    simp [heading?, List.dropPrefix?, other]

theorem entries_plain {front : List (List Char)} (h : ∀ line ∈ front, Plain line) :
    entries group (front ++ rest) = entries group rest := by
  induction front with
  | nil => rfl
  | cons line front ih =>
    obtain ⟨here, others⟩ := List.forall_mem_cons.1 h
    rw [List.cons_append, entries, here.marked?_eq, here.heading?_eq, Option.none_or]
    exact ih others

theorem entries_heading (g : String) :
    entries group (("== " ++ g ++ " ==").toList :: rest) = entries (some g) rest := by
  have unmarked : marked? ("== " ++ g ++ " ==").toList = none := by
    simp [marked?, marks, List.dropPrefix?]
  have named : heading? ("== " ++ g ++ " ==").toList = some g := by
    have behind : (g.toList ++ " ==".toList).dropSuffix? " ==".toList = some g.toList :=
      List.dropSuffix?_eq_some_iff.2 ⟨_, rfl, beq_self_eq_true _⟩
    have front : ("== " ++ g ++ " ==").toList.dropPrefix? "== ".toList = some (g.toList ++ " ==".toList) :=
      List.dropPrefix?_eq_some_iff.2 ⟨_, by simp only [String.toList_append, List.append_assoc],
        beq_self_eq_true _⟩
    rw [heading?, front]
    dsimp only [Option.bind_eq_bind, Option.bind_some]
    rw [behind]
    exact congrArg some String.ofList_toList
  rw [entries, unmarked, named]
  rfl

theorem entries_headLine (single : ' ' ∉ f.ruleId.toList) :
    entries group (f.headLine.toList :: rest) =
      ⟨group, f.severity, f.ruleId, f.words, rest.head?.bind fixLine?⟩ :: entries group rest := by
  have line : f.headLine.toList =
      (mark f.severity).toList ++ ' ' :: (f.ruleId.toList ++ ' ' :: f.words.toList) := by
    simp [Finding.headLine]
  have all : ∀ c ∈ f.ruleId.toList, (c != ' ') = true := fun c mem =>
    bne_iff_ne.2 fun blank => single (blank ▸ mem)
  rw [entries, line, marked?_mark]
  simp only [List.drop_succ_cons, List.drop_zero]
  rw [List.takeWhile_append_of_pos all, List.dropWhile_append_of_pos all]
  simp

theorem fixLine?_fix (fix : String) : fixLine? ("       fix: " ++ fix).toList = some fix := by
  simp [fixLine?, List.dropPrefix?]

theorem fixLine?_headLine (f : Finding) : fixLine? f.headLine.toList = none := by
  cases h : f.severity <;> simp [fixLine?, Finding.headLine, h, mark, List.dropPrefix?]

end Line

/-! ### Findings that read back -/

/-- Nothing of the next findings is taken for a fix. -/
theorem head?_bodyLines (group : Option String) (fs : List Finding) {rest : List (List Char)}
    (other : rest.head?.bind fixLine? = none) :
    ((bodyLines group fs).map String.toList ++ rest).head?.bind fixLine? = none := by
  cases fs with
  | nil => exact other
  | cons f fs =>
    rw [bodyLines]
    split
    · simp [fixLine?, List.dropPrefix?]
    · exact fixLine?_headLine f

theorem fixLine?_fixLines (f : Finding) {rest : List (List Char)}
    (other : rest.head?.bind fixLine? = none) :
    (f.fixLines.map String.toList ++ rest).head?.bind fixLine? = f.fix? := by
  rw [Finding.fixLines]
  cases f.fix? with
  | none => exact other
  | some fix => exact fixLine?_fix fix

theorem fixLines_plain (f : Finding) : ∀ line ∈ f.fixLines.map String.toList, Plain line := by
  rw [Finding.fixLines]
  cases f.fix? <;> simp [Plain]

theorem entries_finding (h : f.Legible) {group : Option String} (own : f.group.text? = group)
    {rest : List (List Char)} (other : rest.head?.bind fixLine? = none) :
    entries group (f.headLine.toList :: (f.fixLines.map String.toList ++ rest)) =
      Entry.ofFinding f :: entries group rest := by
  rw [entries_headLine h.ruleId.1, fixLine?_fixLines f other, entries_plain (fixLines_plain f), ← own]
  rfl

theorem entries_bodyLines (h : ∀ f ∈ fs, f.Legible) (group : Option String)
    {rest : List (List Char)} (other : rest.head?.bind fixLine? = none)
    (plain : ∀ line ∈ rest, Plain line) :
    entries group ((bodyLines group fs).map String.toList ++ rest) = fs.map Entry.ofFinding := by
  induction fs generalizing group with
  | nil => exact List.append_nil rest ▸ (entries_plain plain : entries group (rest ++ []) = entries group [])
  | cons f fs ih =>
    obtain ⟨here, others⟩ := List.forall_mem_cons.1 h
    obtain ⟨own, held, new | ⟨same, rfl⟩⟩ := here.newGroup?_cases group
    · have blank : Plain "".toList := by simp [Plain]
      rw [bodyLines, new]
      simp only [List.map_cons, List.map_append, List.cons_append, List.append_assoc]
      rw [entries, blank.marked?_eq, blank.heading?_eq]
      dsimp only
      rw [entries_heading, entries_finding here held (head?_bodyLines _ fs other), ih others]
    · rw [bodyLines, same]
      simp only [List.map_cons, List.map_append, List.cons_append, List.append_assoc]
      rw [entries_finding here held (head?_bodyLines _ fs other), ih others]

/-! ### Lines with marks -/

/-- The line begins with a mark. -/
def isMarked (line : List Char) : Bool := (marked? line).isSome

theorem filter_plain {lines : List (List Char)} (h : ∀ line ∈ lines, Plain line) :
    lines.filter isMarked = [] :=
  List.filter_eq_nil_iff.2 fun line mem => by simp [isMarked, (h line mem).marked?_eq]

theorem isMarked_headLine (f : Finding) : isMarked f.headLine.toList = true := by
  cases h : f.severity <;> simp [isMarked, marked?, marks, Finding.headLine, h, mark, List.dropPrefix?]

theorem filter_bodyLines (group : Option String) (fs : List Finding) :
    ((bodyLines group fs).map String.toList).filter isMarked = fs.map (·.headLine.toList) := by
  induction fs generalizing group with
  | nil => rfl
  | cons f fs ih =>
    have fixes := filter_plain (fixLines_plain f)
    have blank : isMarked "".toList = false := by decide
    have heading (g : String) : isMarked ("== " ++ g ++ " ==").toList = false := by
      simp [isMarked, marked?, marks, List.dropPrefix?]
    rw [bodyLines]
    split
    · simp only [List.map_cons, List.map_append, List.filter_cons, List.filter_append, blank, heading,
        isMarked_headLine, fixes, ih, Bool.false_eq_true, if_false, if_true, List.nil_append]
    · simp only [List.map_cons, List.map_append, List.filter_cons, List.filter_append,
        isMarked_headLine, fixes, ih, if_true, List.nil_append]

/-! ### Around the findings -/

theorem header_plain (r : Report) : ∀ line ∈ (header r).map String.toList, Plain line := by
  unfold header
  rcases r.module with _ | m <;> rcases r.primaryPath with _ | p <;> rcases r.classification with _ | c <;>
    simp [Plain]

theorem nextStep_plain (r : Report) : Plain (nextStep r).toList := by
  unfold nextStep
  simp [Plain]

theorem closing_plain (r : Report) : ∀ line ∈ (closing r).map String.toList, Plain line := by
  have plain {text : String} (h : text.toList.head? ≠ some '[' ∧ text.toList.head? ≠ some '=') :
      Plain text.toList := h
  simp only [closing, List.map_append, List.forall_mem_append]
  constructor
  · simp [summary, Plain]
  · rw [List.forall_mem_map, advice]
    split
    · rw [List.forall_mem_cons, List.forall_mem_map]
      exact ⟨plain (by decide +kernel), fun _ _ => by simp [Plain]⟩
    all_goals
      rw [List.forall_mem_cons, List.forall_mem_singleton]
      exact ⟨plain (by decide +kernel), nextStep_plain r⟩

/-! ### Numbers -/

/-- The line tells no number of errors or warnings. -/
def Unlabelled (line : List Char) : Prop :=
  line.dropPrefix? "  errors:".toList = none ∧ line.dropPrefix? "  warnings:".toList = none

theorem unlabelled_header (r : Report) : ∀ line ∈ (header r).map String.toList, Unlabelled line := by
  unfold header
  rcases r.module with _ | m <;> rcases r.primaryPath with _ | p <;> rcases r.classification with _ | c <;>
    simp [Unlabelled, List.dropPrefix?]

theorem unlabelled_bodyLines (group : Option String) (fs : List Finding) :
    ∀ line ∈ (bodyLines group fs).map String.toList, Unlabelled line := by
  induction fs generalizing group with
  | nil => exact fun _ mem => nomatch mem
  | cons f fs ih =>
    have first : Unlabelled f.headLine.toList := by
      cases h : f.severity <;> simp [Unlabelled, Finding.headLine, h, mark, List.dropPrefix?]
    have fixes : ∀ line ∈ f.fixLines.map String.toList, Unlabelled line := by
      rw [Finding.fixLines]
      cases f.fix? <;> simp [Unlabelled, List.dropPrefix?]
    have own (group : Option String) : ∀ line ∈
        (f.headLine :: (f.fixLines ++ bodyLines group fs)).map String.toList, Unlabelled line := by
      rw [List.map_cons, List.map_append, List.forall_mem_cons, List.forall_mem_append]
      exact ⟨first, fixes, ih group⟩
    rw [bodyLines]
    split
    · rw [List.map_cons, List.map_cons, List.forall_mem_cons, List.forall_mem_cons]
      exact ⟨by simp [Unlabelled, List.dropPrefix?], by simp [Unlabelled, List.dropPrefix?], own _⟩
    · exact own group

theorem unlabelled_advice (r : Report) : ∀ line ∈ (advice r).map String.toList, Unlabelled line := by
  have next : Unlabelled (nextStep r).toList := by
    unfold nextStep
    simp [Unlabelled, List.dropPrefix?]
  rw [List.forall_mem_map, advice]
  split
  · rw [List.forall_mem_cons, List.forall_mem_map]
    exact ⟨by simp [Unlabelled, List.dropPrefix?], fun _ _ => by simp [Unlabelled, List.dropPrefix?]⟩
  all_goals
    rw [List.forall_mem_cons, List.forall_mem_singleton]
    exact ⟨by simp [Unlabelled, List.dropPrefix?], next⟩

/-- A number behind blanks. -/
theorem number?_padded (blanks n : Nat) :
    number? ((List.replicate blanks ' ' ++ n.repr.toList).dropWhile (· == ' ')) = some n := by
  have front : ∀ c ∈ List.replicate blanks ' ', (c == ' ') = true := fun c mem =>
    beq_iff_eq.2 (List.eq_of_mem_replicate mem)
  have digits : ∀ c ∈ Nat.toDigits 10 n, c.isDigit = true := fun c mem =>
    Nat.isDigit_of_mem_toDigits (by decide) (by decide) mem
  have all : (Nat.toDigits 10 n).dropWhile (· == ' ') = Nat.toDigits 10 n := by
    cases spelled : Nat.toDigits 10 n with
    | nil => rfl
    | cons c rest =>
      have digit := digits c (spelled ▸ List.mem_cons_self)
      rw [List.dropWhile_cons, if_neg]
      intro blank
      rw [beq_iff_eq.1 blank] at digit
      exact absurd digit (by decide)
  rw [List.dropWhile_append_of_pos front, Nat.toList_repr, all, number?,
    if_pos ⟨Nat.toDigits_ne_nil, List.all_eq_true.2 digits⟩,
    Nat.ofDigitChars_toDigits (by decide) (by decide)]

theorem numbers_eq_nil {label : String} {lines : List (List Char)}
    (h : ∀ line ∈ lines, line.dropPrefix? label.toList = none) : numbers label lines = [] :=
  List.filterMap_eq_nil_iff.2 fun line mem => by rw [h line mem]; rfl

theorem numbers_append (label : String) (lines lines' : List (List Char)) :
    numbers label (lines ++ lines') = numbers label lines ++ numbers label lines' :=
  List.filterMap_append ..

theorem numbers_singleton {label : String} (blanks n : Nat) {line : String}
    (spelled : line.toList = label.toList ++ (List.replicate blanks ' ' ++ n.repr.toList)) :
    numbers label [line.toList] = [some n] := by
  have behind : line.toList.dropPrefix? label.toList = some (List.replicate blanks ' ' ++ n.repr.toList) :=
    List.dropPrefix?_eq_some_iff.2 ⟨_, spelled, beq_self_eq_true _⟩
  rw [numbers, List.filterMap_cons, behind, Option.map_some, number?_padded]
  rfl

theorem numbers_summary (r : Report) :
    numbers "  errors:" ((summary r).map String.toList) = [some r.errorCount] ∧
      numbers "  warnings:" ((summary r).map String.toList) = [some r.warningCount] := by
  have parts : (summary r).map String.toList =
      ["".toList, "Summary".toList] ++ [("  errors:   " ++ toString r.errorCount).toList] ++
        [("  warnings: " ++ toString r.warningCount).toList] ++
          [("  outcome:  " ++ r.outcome.label).toList, "".toList] := rfl
  have errors : numbers "  errors:" [("  errors:   " ++ toString r.errorCount).toList] =
      [some r.errorCount] := numbers_singleton 3 _ (by rw [String.toList_append]; rfl)
  have warnings : numbers "  warnings:" [("  warnings: " ++ toString r.warningCount).toList] =
      [some r.warningCount] := numbers_singleton 1 _ (by rw [String.toList_append]; rfl)
  have above : ∀ line ∈ ["".toList, "Summary".toList], Unlabelled line := by
    simp [Unlabelled, List.dropPrefix?]
  have below : ∀ line ∈ [("  outcome:  " ++ r.outcome.label).toList, "".toList], Unlabelled line := by
    simp [Unlabelled, List.dropPrefix?]
  rw [parts]
  simp only [numbers_append, errors, warnings]
  constructor
  · rw [numbers_eq_nil fun line mem => (above line mem).1, numbers_eq_nil fun line mem => (below line mem).1,
      numbers_eq_nil (List.forall_mem_singleton.2 (by simp [List.dropPrefix?]))]
    rfl
  · rw [numbers_eq_nil fun line mem => (above line mem).2, numbers_eq_nil fun line mem => (below line mem).2,
      numbers_eq_nil (List.forall_mem_singleton.2 (by simp [List.dropPrefix?]))]
    rfl

theorem numbers_allLines (r : Report) :
    numbers "  errors:" (allLines r) = [some r.errorCount] ∧
      numbers "  warnings:" (allLines r) = [some r.warningCount] := by
  obtain ⟨errors, warnings⟩ := numbers_summary r
  simp only [allLines, closing, List.map_append, numbers_append, errors, warnings]
  constructor
  · rw [numbers_eq_nil fun line mem => (unlabelled_header r line mem).1,
      numbers_eq_nil fun line mem => (unlabelled_bodyLines none r.findings line mem).1,
      numbers_eq_nil fun line mem => (unlabelled_advice r line mem).1]
    rfl
  · rw [numbers_eq_nil fun line mem => (unlabelled_header r line mem).2,
      numbers_eq_nil fun line mem => (unlabelled_bodyLines none r.findings line mem).2,
      numbers_eq_nil fun line mem => (unlabelled_advice r line mem).2]
    rfl

/-! ### The whole text -/

theorem entries_allLines (h : ∀ f ∈ r.findings, f.Legible) :
    entries none (allLines r) = r.findings.map Entry.ofFinding := by
  rw [allLines, List.map_append, List.map_append, List.append_assoc, entries_plain (header_plain r)]
  exact entries_bodyLines h none rfl (closing_plain r)

theorem filter_allLines (r : Report) :
    (allLines r).filter isMarked = r.findings.map (·.headLine.toList) := by
  rw [allLines, List.map_append, List.map_append, List.filter_append, List.filter_append,
    filter_plain (header_plain r), filter_plain (closing_plain r), filter_bodyLines, List.nil_append,
    List.append_nil]

/-- The line begins with a word. -/
def hasMark (word : String) (line : List Char) : Bool := word.toList.isPrefixOf line

theorem hasMark_headLine (severity : Severity) (f : Finding) :
    hasMark (mark severity) f.headLine.toList = (f.severity == severity) := by
  cases severity <;> cases h : f.severity <;>
    simp [hasMark, Finding.headLine, h, mark, List.isPrefixOf]

theorem isMarked_of_hasMark {severity : Severity} {line : List Char}
    (h : hasMark (mark severity) line = true) : isMarked line = true := by
  obtain ⟨behind, rfl⟩ := List.isPrefixOf_iff_prefix.1 h
  rw [isMarked, marked?_mark]
  rfl

/-- As many lines have the mark of a severity as findings have the severity. -/
theorem countP_allLines (severity : Severity) (r : Report) :
    (allLines r).countP (hasMark (mark severity)) = countOf severity r.findings := by
  have marked : (allLines r).countP (hasMark (mark severity)) =
      ((allLines r).filter isMarked).countP (hasMark (mark severity)) := by
    rw [List.countP_filter]
    refine List.countP_congr fun line _ => ?_
    rw [Bool.and_eq_true, iff_self_and]
    exact isMarked_of_hasMark
  rw [marked, filter_allLines, List.countP_map, countOf]
  exact List.countP_congr fun f _ => by rw [Function.comp, hasMark_headLine]

/-- The text of a report loses nothing: read line by line it gives each finding in order, with its group,
and for failures what to do. No other line has a mark, and the summary counts the lines with marks. -/
theorem text_reads_back {findings : List Finding} {classification : Option Classification}
    {module : Option Module} {primaryPath : Option Path}
    (legible : (ofFindings findings classification module primaryPath).Legible) :
    ∃ text, (ofFindings findings classification module primaryPath).text = .ok text ∧
      entries none (split text) = findings.map Entry.ofFinding ∧
      (split text).filter isMarked = findings.map (·.headLine.toList) ∧
      numbers "  errors:" (split text) = [some ((split text).countP (hasMark "[FAIL]"))] ∧
      numbers "  warnings:" (split text) = [some ((split text).countP (hasMark "[WARN]"))] := by
  obtain ⟨text, told, lines⟩ := split_text legible
  obtain ⟨errors, warnings⟩ := numbers_allLines (ofFindings findings classification module primaryPath)
  refine ⟨text, told, ?_⟩
  rw [lines, errors, warnings, show "[FAIL]" = mark .fail from rfl, show "[WARN]" = mark .warn from rfl,
    countP_allLines, countP_allLines]
  exact ⟨entries_allLines legible.findings, filter_allLines _, rfl, rfl⟩

/-- A group that is left and entered again, and a title that looks like a line of another kind. -/
theorem text_reads_back_groups :
    let findings : List Finding := [
      { ruleId := "CHK-203", title := .text "== Completed ==", severity := .fail, message := "missing: call",
        remediation := .text "Call it", group := .text "Source" },
      { ruleId := "CHK-101", title := .text "[FAIL]", severity := .pass, message := "", group := .text "Identity" },
      { ruleId := "CHK-212", title := .text "Keys", severity := .warn, message := "none",
        remediation := .text "Add keys", group := .text "Source" }]
    let reader : Classification := ⟨.baseDelegated, true, true, .warehouse, some "BaseConnector"⟩
    let report := ofFindings findings (some reader) (some ⟨⟨1, []⟩, "x"⟩) (some ⟨1, ["X.java"]⟩)
    report.Legible ∧ ∃ text, report.text = .ok text ∧
      entries none (split text) = [
        ⟨some "Source", .fail, "CHK-203", "== Completed ==: missing: call", some "Call it"⟩,
        ⟨some "Identity", .pass, "CHK-101", "[FAIL]: ", none⟩,
        ⟨some "Source", .warn, "CHK-212", "Keys: none", none⟩] ∧
      (split text).filter isMarked = findings.map (·.headLine.toList) ∧
      numbers "  errors:" (split text) = [some ((split text).countP (hasMark "[FAIL]"))] ∧
      numbers "  warnings:" (split text) = [some ((split text).countP (hasMark "[WARN]"))] := by
  intro findings reader report
  have legible : report.Legible := by
    constructor
    case findings =>
      simp only [report, ofFindings, findings, List.forall_mem_cons]
      refine ⟨?_, ?_, ?_, nofun⟩
      · exact ⟨by decide, ⟨_, rfl, by decide⟩, by decide, ⟨_, rfl, by decide, by decide⟩,
          ⟨some "Call it", rfl, by simp⟩⟩
      · exact ⟨by decide, ⟨_, rfl, by decide⟩, by decide, ⟨_, rfl, by decide, by decide⟩, ⟨none, rfl, nofun⟩⟩
      · exact ⟨by decide, ⟨_, rfl, by decide⟩, by decide, ⟨_, rfl, by decide, by decide⟩,
          ⟨some "Add keys", rfl, by simp⟩⟩
    case module => exact fun m mem => Option.some.inj mem ▸ by decide
    case primaryPath => exact fun p mem => Option.some.inj mem ▸ by decide +kernel
    case baseType =>
      intro c mem base held
      obtain rfl := Option.some.inj mem
      exact Option.some.inj held ▸ by decide
  obtain ⟨text, told, read, rest⟩ := text_reads_back legible
  exact ⟨legible, text, told, read.trans (by decide +kernel), rest⟩

end ModuleAudit.Report
