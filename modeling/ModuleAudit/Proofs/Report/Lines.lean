import ModuleAudit.Proofs.Answer
import ModuleAudit.Report.Text

/-!
# The lines of a report

What a report has to say of findings is text (`Finding.Worded`), and if nothing of it goes over the end
of a line (`Report.Legible`) the text of the report is the lines that are meant.

* `text_eq`: the text of a report on findings that hold texts, without a case for what may go wrong;
* `split_text`: the text of a legible report comes apart into these lines.
-/

namespace ModuleAudit

/-! ## Findings that hold texts -/

/-- The value of a text that may be absent. -/
def Value.ofText? : Option String → Value
  | some s => .text s
  | none => .null

/-- The text that a value is, if it is one. -/
def Value.text? : Value → Option String
  | .text s => some s
  | _ => none

@[simp] theorem Value.text?_ofText? (o : Option String) : (Value.ofText? o).text? = o := by
  cases o <;> rfl

namespace Finding

/-- The title is text, and so are the group and the remediation unless they are absent. -/
structure Worded (f : Finding) : Prop where
  title : ∃ s, f.title = .text s
  group : ∃ o, f.group = .ofText? o
  remediation : ∃ o, f.remediation = .ofText? o

/-- What a finding says of its rule. -/
def words (f : Finding) : String := f.title.text?.getD "" ++ ": " ++ f.message

/-- What to do about a failure, unless nothing is told. -/
def fix? (f : Finding) : Option String :=
  if f.severity = .fail then f.remediation.text?.filter (· ≠ "") else none

/-- The line below it. -/
def fixLines (f : Finding) : List String := f.fix?.toList.map ("       fix: " ++ ·)

/-- The line with the mark of a finding. -/
def headLine (f : Finding) : String := Report.mark f.severity ++ " " ++ f.ruleId ++ " " ++ f.words

/-- The group that begins with a finding, after the findings of another group or of none. -/
def newGroup? (f : Finding) (group : Option String) : Option String :=
  f.group.text?.filter fun g => g ≠ "" ∧ some g ≠ group

theorem Worded.newGroup?_cases {f : Finding} (w : f.Worded) (group : Option String) :
    (∃ g, f.group = .text g ∧ f.newGroup? group = some g ∧
      (f.group.isTruthy && !f.group.equals (.ofText? group)) = true) ∨
    f.newGroup? group = none ∧ (f.group.isTruthy && !f.group.equals (.ofText? group)) = false := by
  obtain ⟨_ | own, ho⟩ := w.group
  · exact .inr ⟨by rw [newGroup?, ho]; rfl, by rw [ho]; rfl⟩
  · have begins : (f.group.isTruthy && !f.group.equals (.ofText? group)) =
        decide (own ≠ "" ∧ some own ≠ group) := by
      rw [ho, Bool.eq_iff_iff]
      cases group <;> simp [Value.ofText?, Value.isTruthy, Value.equals, Value.same]
    rw [begins, newGroup?, ho, Value.text?_ofText?]
    by_cases new : own ≠ "" ∧ some own ≠ group
    · exact .inl ⟨own, rfl, by simp [Option.filter_some, new], decide_eq_true new⟩
    · exact .inr ⟨by simp only [Option.filter_some, new]; rfl, decide_eq_false new⟩

/-- A finding that lines can tell: nothing of it goes over the end of a line, a blank ends the id of the
rule, and there is a group. -/
structure Legible (f : Finding) : Prop where
  ruleId : ' ' ∉ f.ruleId.toList ∧ '\n' ∉ f.ruleId.toList
  title : ∃ s, f.title = .text s ∧ '\n' ∉ s.toList
  message : '\n' ∉ f.message.toList
  group : ∃ s, f.group = .text s ∧ s ≠ "" ∧ '\n' ∉ s.toList
  remediation : ∃ o, f.remediation = .ofText? o ∧ ∀ s ∈ o, '\n' ∉ s.toList

theorem Legible.worded {f : Finding} (h : f.Legible) : f.Worded :=
  have ⟨_, title, _⟩ := h.title
  have ⟨group, held, _⟩ := h.group
  have ⟨_, remediation, _⟩ := h.remediation
  ⟨⟨_, title⟩, ⟨some group, held⟩, ⟨_, remediation⟩⟩

/-- The group of a finding begins with it unless the group goes on. -/
theorem Legible.newGroup?_cases {f : Finding} (h : f.Legible) (group : Option String) :
    ∃ own, f.group.text? = some own ∧
      (f.newGroup? group = some own ∨ f.newGroup? group = none ∧ group = some own) := by
  obtain ⟨own, held, nonempty, -⟩ := h.group
  refine ⟨own, by rw [held]; rfl, ?_⟩
  rw [newGroup?, held, Value.text?, Option.filter_some]
  by_cases same : some own = group
  · exact .inr ⟨by simp [same], same.symm⟩
  · exact .inl (by simp [nonempty, same])

end Finding

namespace Report

variable {f : Finding} {fs : List Finding} {r : Report}

/-- The lines of findings after those of a group. -/
def bodyLines (group : Option String) : List Finding → List String
  | [] => []
  | f :: rest =>
    match f.newGroup? group with
    | some g =>
      "" :: ("== " ++ g ++ " ==") :: f.headLine :: (f.fixLines ++ bodyLines (some g) rest)
    | none => f.headLine :: (f.fixLines ++ bodyLines group rest)

theorem findingLines_eq (w : f.Worded) : findingLines f = .ok (f.headLine :: f.fixLines) := by
  obtain ⟨title, ht⟩ := w.title
  obtain ⟨remediation, hr⟩ := w.remediation
  have first : mark f.severity ++ " " ++ f.ruleId ++ " " ++ title ++ ": " ++ f.message = f.headLine := by
    simp only [Finding.headLine, Finding.words, ht, Value.text?, Option.getD_some, String.append_assoc]
  have plain : f.title.plain? = .ok title := by rw [ht]; rfl
  rw [findingLines, plain, ok_bind, first, Finding.fixLines, Finding.fix?, hr, Value.text?_ofText?]
  rcases remediation with _ | fix
  · simp [Value.ofText?, Value.isTruthy, pure, Except.pure]
  · by_cases failure : f.severity = .fail
    · by_cases none : fix = ""
      · simp [Value.ofText?, Value.isTruthy, none, pure, Except.pure]
      · simp [Value.ofText?, Value.isTruthy, failure, none, Option.filter_some, pure, Except.pure, Value.plain?,
          Value.isShowable, Value.plain, ok_bind]
    · simp [failure, pure, Except.pure]

theorem findingsLines_eq (h : ∀ f ∈ fs, f.Worded) (group : Option String) :
    findingsLines (.ofText? group) fs = .ok (bodyLines group fs) := by
  induction fs generalizing group with
  | nil => rfl
  | cons f fs ih =>
    obtain ⟨here, others⟩ := List.forall_mem_cons.1 h
    rw [findingsLines, bodyLines, findingLines_eq here]
    rcases here.newGroup?_cases group with ⟨g, held, new, begins⟩ | ⟨same, stays⟩
    · have plain : f.group.plain? = .ok g := by rw [held]; rfl
      have rest := ih others (some g)
      rw [← show f.group = .ofText? (some g) from held] at rest
      rw [if_pos begins, new, plain, ok_bind, ok_bind, rest]
      rfl
    · rw [if_neg (Bool.eq_false_iff.1 stays), same, ih others, ok_bind]
      rfl

/-- The text of a report on findings that hold texts. -/
theorem text_eq (h : ∀ f ∈ r.findings, f.Worded) :
    r.text = .ok ("\n".intercalate (header r ++ bodyLines none r.findings ++ summary r ++ advice r)) := by
  rw [text, show Value.null = .ofText? none from rfl, findingsLines_eq h]
  rfl

/-! ## The end of a line -/

/-- The lines of a text. -/
def split (text : String) : List (List Char) := text.toList.splitOn '\n'

/-- A report that lines can tell: nothing of it goes over the end of a line. -/
structure Legible (r : Report) : Prop where
  findings : ∀ f ∈ r.findings, f.Legible
  module : ∀ m ∈ r.module, '\n' ∉ m.name.toList
  primaryPath : ∀ p ∈ r.primaryPath, '\n' ∉ (r.displayPath p).toList
  baseType : ∀ c ∈ r.classification, ∀ base ∈ c.baseType, '\n' ∉ base.toList

/-- What stands below the findings. -/
def closing (r : Report) : List String := summary r ++ advice r

/-- The lines of a report, part by part. -/
def allLines (r : Report) : List (List Char) :=
  (header r ++ bodyLines none r.findings ++ closing r).map String.toList

theorem newline_not_mem_digits (n : Nat) : '\n' ∉ Nat.toDigits 10 n := fun mem =>
  absurd (Nat.isDigit_of_mem_toDigits (by decide) (by decide) mem) (by decide)

theorem newline_not_mem_relativeDir {m : Module} (h : '\n' ∉ m.name.toList) :
    '\n' ∉ m.relativeDir.toList := by
  unfold Module.relativeDir
  simp [h]

/-- The characters of a text that is written out are the ones that it is written with. -/
theorem not_mem_written {c : Char} {cs : List Char} (h : c ∉ cs) : c ∉ (String.ofList cs).toList := by
  rwa [String.toList_ofList]

theorem newline_not_mem_nextStep (h : r.Legible) : '\n' ∉ (nextStep r).toList := by
  have step : '\n' ∉ "Next step: proceed with testing: mvn clean verify".toList :=
    not_mem_written (by decide)
  unfold nextStep
  rw [String.toList_append, List.mem_append, not_or]
  refine ⟨step, ?_⟩
  cases found : r.module with
  | none => exact nofun
  | some m => simp [newline_not_mem_relativeDir (h.module m found)]

theorem newline_not_mem_closing (h : r.Legible) : ∀ line ∈ closing r, '\n' ∉ line.toList := by
  have outcome : '\n' ∉ r.outcome.label.toList := by
    cases r.outcome <;> exact not_mem_written (by decide)
  rw [closing, List.forall_mem_append]
  constructor
  · simp [summary, newline_not_mem_digits, outcome]
  · rw [advice]
    split
    · have fixes : ∀ entry ∈ commonFixes, '\n' ∉ entry.1.toList ∧ '\n' ∉ entry.2.toList := by
        simp only [commonFixes, List.forall_mem_cons]
        and_intros
        all_goals first
          | exact not_mem_written (by decide)
          | exact nofun
      rw [List.forall_mem_cons, List.forall_mem_map]
      exact ⟨not_mem_written (by decide), fun entry mem => by simp [fixes entry mem]⟩
    all_goals
      rw [List.forall_mem_cons, List.forall_mem_singleton]
      exact ⟨not_mem_written (by decide), newline_not_mem_nextStep h⟩

theorem newline_not_mem_kindText {c : Classification} (h : ∀ base ∈ c.baseType, '\n' ∉ base.toList) :
    '\n' ∉ (kindText c).toList := by
  have purpose : '\n' ∉ c.purpose.toList := by
    unfold Classification.purpose
    split <;> simp
  have delegation : '\n' ∉ c.delegation.word.toList := by
    cases c.delegation <;> simp [Delegation.word]
  unfold kindText
  cases found : c.baseType with
  | none => simp [purpose, delegation]
  | some base =>
    have base := h base found
    dsimp only
    split <;> simp [purpose, delegation, base]

theorem newline_not_mem_header (h : r.Legible) : ∀ line ∈ header r, '\n' ∉ line.toList := by
  have kind (c : Classification) (found : r.classification = some c) : '\n' ∉ (kindText c).toList :=
    newline_not_mem_kindText (h.baseType c found)
  have subtype (c : Classification) : '\n' ∉ c.subtype.word.toList := by
    cases c.subtype <;> simp [DestinationSubtype.word]
  simp only [header, List.forall_mem_append]
  and_intros
  · cases found : r.module with
    | none => simp
    | some m =>
      have name := h.module m found
      simp [newline_not_mem_relativeDir name, name]
  · cases found : r.primaryPath with
    | none => simp
    | some p =>
      have path := h.primaryPath p found
      simp [path]
  · cases found : r.classification with
    | none => simp
    | some c =>
      dsimp only
      split <;> simp [kind c found, subtype]

theorem newline_not_mem_headLine (h : f.Legible) : '\n' ∉ f.headLine.toList := by
  obtain ⟨title, ht, htitle⟩ := h.title
  cases s : f.severity <;>
    simp [Finding.headLine, Finding.words, s, mark, ht, htitle, Value.text?, h.ruleId.2, h.message]

theorem newline_not_mem_fixLines (h : f.Legible) : ∀ line ∈ f.fixLines, '\n' ∉ line.toList := by
  obtain ⟨remediation, hr, single⟩ := h.remediation
  have told : ∀ fix ∈ f.fix?, fix ∈ remediation := by
    rw [Finding.fix?, hr, Value.text?_ofText?]
    split
    · exact fun fix mem => (Option.mem_filter_iff.1 mem).1
    · exact fun _ mem => nomatch mem
  intro line mem
  obtain ⟨fix, here, rfl⟩ := List.mem_map.1 mem
  have fix := single fix (told fix (Option.mem_toList.1 here))
  simp [fix]

theorem newline_not_mem_bodyLines (h : ∀ f ∈ fs, f.Legible) (group : Option String) :
    ∀ line ∈ bodyLines group fs, '\n' ∉ line.toList := by
  induction fs generalizing group with
  | nil => exact fun _ mem => nomatch mem
  | cons f fs ih =>
    obtain ⟨here, others⟩ := List.forall_mem_cons.1 h
    rw [bodyLines]
    have own (group : Option String) :
        ∀ line ∈ f.headLine :: (f.fixLines ++ bodyLines group fs), '\n' ∉ line.toList := by
      rw [List.forall_mem_cons, List.forall_mem_append]
      exact ⟨newline_not_mem_headLine here, newline_not_mem_fixLines here, ih others group⟩
    split
    next g new =>
      obtain ⟨name, held, -, single⟩ := here.group
      obtain rfl : name = g := by
        rw [Finding.newGroup?, held] at new
        exact Option.some.inj (Option.filter_eq_some_iff.1 new).1
      rw [List.forall_mem_cons, List.forall_mem_cons]
      exact ⟨by simp, by simp [single], own _⟩
    next => exact own group

theorem split_text (h : r.Legible) : ∃ text, r.text = .ok text ∧ split text = allLines r := by
  have single : ∀ line ∈ allLines r, '\n' ∉ line := by
    rw [allLines, List.forall_mem_map, List.forall_mem_append, List.forall_mem_append]
    exact ⟨⟨newline_not_mem_header h, newline_not_mem_bodyLines h.findings none⟩,
      newline_not_mem_closing h⟩
  have some : allLines r ≠ [] := by simp [allLines, closing, summary]
  refine ⟨_, text_eq fun f mem => (h.findings f mem).worded, ?_⟩
  rw [split, String.toList_intercalate, List.append_assoc _ (summary r)]
  exact List.splitOn_intercalate '\n' single some

end Report

end ModuleAudit
