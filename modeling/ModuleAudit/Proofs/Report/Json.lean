import ModuleAudit.Proofs.Json.Written
import ModuleAudit.Proofs.Report.Lines
import ModuleAudit.Report.Json

/-!
# Reading the document of a report back

* `toJson_eq`: the document of a report on findings that hold texts, without a case for what may go wrong;
* `document_isWhole`: it has no numbers but whole ones, so its text spells it;
* `jsonText_reads_back`: the text of the document is ASCII and JSON, and is parsed as the document again.
-/

namespace ModuleAudit

open Json (Ascii SpellsText isWhole membersWhole allWhole)

/-- The entry of a finding. -/
def Finding.document (f : Finding) : Json := .object [
  ("rule_id", .string f.ruleId),
  ("group", .ofString? f.group.text?),
  ("title", .string (f.title.text?.getD "")),
  ("severity", .string f.severity.word),
  ("message", .string f.message),
  ("remediation", .ofString? f.remediation.text?)]

namespace Report

/-- The document of a report on findings that hold texts. -/
def document (r : Report) : Json := .object (
  [("meta", metaJson r)] ++
  r.classification.toList.map (fun c => ("classification", classificationJson c)) ++
  [("summary", summaryJson r), ("findings", .array (r.findings.map Finding.document))])

variable {f : Finding} {r : Report}

theorem toJson_ofText? (o : Option String) : (Value.ofText? o).toJson = .ok (.ofString? o) := by
  cases o <;> rfl

theorem findingJson_eq (w : f.Worded) : findingJson f = .ok f.document := by
  obtain ⟨title, ht⟩ := w.title
  obtain ⟨group, hg⟩ := w.group
  obtain ⟨remediation, hr⟩ := w.remediation
  have titled : f.title.toJson = .ok (.string title) := by rw [ht]; rfl
  rw [findingJson, hg, toJson_ofText?, ok_bind, titled, ok_bind, hr, toJson_ofText?, ok_bind,
    Finding.document, ht, hg, hr, Value.text?_ofText?, Value.text?_ofText?]
  rfl

theorem toJson_eq (h : ∀ f ∈ r.findings, f.Worded) : r.toJson = .ok r.document := by
  have entries : r.findings.mapM findingJson = .ok (r.findings.map Finding.document) :=
    mapM_eq_ok.2 (List.forall₂_map_right_iff.2 (List.forall₂_same.2 fun f mem => findingJson_eq (h f mem)))
  rw [toJson, entries, ok_bind, document]
  cases r.classification <;> rfl

/-! ## Whole numbers only -/

theorem isWhole_ofString? (o : Option String) : (Json.ofString? o).isWhole = true := by
  cases o <;> rfl

theorem allWhole_documents (fs : List Finding) : allWhole (fs.map Finding.document) = true := by
  induction fs with
  | nil => rfl
  | cons f fs ih =>
    have entry : f.document.isWhole = true := by
      simp [Finding.document, isWhole, membersWhole, isWhole_ofString?]
    rw [List.map_cons, allWhole, entry, ih]
    rfl

theorem document_isWhole (r : Report) : r.document.isWhole = true := by
  have about : (metaJson r).isWhole = true := by
    unfold metaJson
    cases r.module <;> cases r.primaryPath <;> rfl
  have kind (c : Classification) : (classificationJson c).isWhole = true := by
    simp [classificationJson, isWhole, membersWhole, isWhole_ofString?]
  have counts : (summaryJson r).isWhole = true := rfl
  unfold document
  cases r.classification <;>
    simp [isWhole, membersWhole, about, kind, counts, allWhole_documents]

/-! ## The text of the document -/

/-- How many entries of a document have a severity. -/
def entryCount (severity : String) (document : Json) : Nat :=
  ((document.get? "findings").elim [] Json.items).countP fun entry =>
    (entry.get? "severity").bind Json.string? == some severity

/-- What the summary of a document says under a key. -/
def summaryEntry? (key : String) (document : Json) : Option Json :=
  (document.get? "summary").bind (·.get? key)

theorem entryCount_document (severity : Severity) (r : Report) :
    entryCount severity.word r.document = countOf severity r.findings := by
  have found : (r.document.get? "findings").elim [] Json.items = r.findings.map Finding.document := by
    unfold document
    cases r.classification <;> rfl
  have word {s t : Severity} : s.word = t.word ↔ s = t := by
    cases s <;> cases t <;> simp [Severity.word]
  rw [entryCount, found, List.countP_map, countOf]
  refine List.countP_congr fun f _ => ?_
  have own : (f.document.get? "severity").bind Json.string? = some f.severity.word := rfl
  simp [own, word]

theorem summaryEntry?_document (r : Report) :
    summaryEntry? "error_count" r.document = some (.int r.errorCount) ∧
      summaryEntry? "warning_count" r.document = some (.int r.warningCount) := by
  unfold document
  cases r.classification <;> exact ⟨rfl, rfl⟩

/-- The text of the document of a report loses nothing: it has ASCII characters only, it is JSON, and it is
parsed as the document that was written. If the report counts its findings, the summary of the document
counts its entries. -/
theorem jsonText_reads_back (h : ∀ f ∈ r.findings, f.Worded) :
    ∃ text, r.jsonText = .ok text ∧ Ascii text.toList ∧ SpellsText text.toList r.document ∧
      Json.parse? text = some r.document ∧ r.toJson = .ok r.document ∧
      ∀ findings classification module primaryPath,
        r = .ofFindings findings classification module primaryPath →
        summaryEntry? "error_count" r.document = some (.int (entryCount "fail" r.document)) ∧
        summaryEntry? "warning_count" r.document = some (.int (entryCount "warn" r.document)) := by
  have whole := document_isWhole r
  have made := toJson_eq h
  refine ⟨r.document.indented, by rw [jsonText, made]; rfl, Json.indented_ascii whole,
    Json.indented_spells whole, Json.parse?_indented whole, made, ?_⟩
  rintro findings classification module primaryPath rfl
  obtain ⟨errors, warnings⟩ := summaryEntry?_document (.ofFindings findings classification module primaryPath)
  rw [errors, warnings, show "fail" = Severity.fail.word from rfl, show "warn" = Severity.warn.word from rfl,
    entryCount_document, entryCount_document]
  exact ⟨rfl, rfl⟩

/-- Quotes, controls and characters beyond 16 bits, and findings without a group or a remediation. -/
theorem jsonText_reads_back_escapes :
    let findings : List Finding := [
      { ruleId := "CHK-101", title := .text "\"a\\b\"\n\x01", severity := .fail, message := "é🙂",
        remediation := .text "\x7f" },
      { ruleId := "CHK-102", title := .text "", severity := .warn, message := "", group := .text "/" }]
    let report := ofFindings findings
    (∀ f ∈ findings, f.Worded) ∧ ∃ text, report.jsonText = .ok text ∧ Ascii text.toList ∧
      SpellsText text.toList report.document ∧ Json.parse? text = some report.document ∧
      (report.document.get? "findings").map Json.items = some [
        .object [("rule_id", .string "CHK-101"), ("group", .null), ("title", .string "\"a\\b\"\n\x01"),
          ("severity", .string "fail"), ("message", .string "é🙂"), ("remediation", .string "\x7f")],
        .object [("rule_id", .string "CHK-102"), ("group", .string "/"), ("title", .string ""),
          ("severity", .string "warn"), ("message", .string ""), ("remediation", .null)]] ∧
      summaryEntry? "error_count" report.document = some (.int (entryCount "fail" report.document)) ∧
      summaryEntry? "warning_count" report.document = some (.int (entryCount "warn" report.document)) := by
  intro findings report
  have worded : ∀ f ∈ findings, f.Worded := by
    simp only [findings, List.forall_mem_cons]
    exact ⟨⟨⟨_, rfl⟩, ⟨none, rfl⟩, ⟨some _, rfl⟩⟩, ⟨⟨_, rfl⟩, ⟨some _, rfl⟩, ⟨none, rfl⟩⟩, nofun⟩
  obtain ⟨text, written, ascii, spelled, parsed, -, counted⟩ := jsonText_reads_back (r := report) worded
  exact ⟨worded, text, written, ascii, spelled, parsed, rfl, counted findings none none none rfl⟩

end Report

end ModuleAudit
