import ModuleAudit.Json.Text
import ModuleAudit.Report.Basic
import ModuleAudit.Value.Json

/-!
# Reports as JSON

`Report.toJson` is the document that other programs read. It holds the same as the text, and all
remediations.
-/

namespace ModuleAudit.Report

/-- The version of the documents' form. -/
def schemaVersion : String := "0.1"

/-- The version of this program. -/
def toolVersion : String := "0.1.0"

/-- What was looked at, and by what. -/
def metaJson (r : Report) : Json :=
  let module := match r.module with
    | some m => [("connector", .string m.name), ("module", .string m.relativeDir)]
    | none => []
  let primary := match r.primaryPath with
    | some p => [("primary_file", .string (r.displayPath p))]
    | none => []
  .object ([("schema_version", .string schemaVersion), ("tool_version", .string toolVersion)] ++
    module ++ primary)

/-- The kind of the connector. -/
def classificationJson (c : Classification) : Json := .object [
  ("delegation", .string c.delegation.word),
  ("base_type", .ofString? c.baseType),
  ("source", .bool c.hasSource),
  ("destination", .bool c.hasDestination),
  ("destination_subtype", .string c.subtype.word)]

/-- The counts, the outcome and the exit code. -/
def summaryJson (r : Report) : Json := .object [
  ("error_count", .int r.errorCount),
  ("warning_count", .int r.warningCount),
  ("outcome", .string r.outcome.word),
  ("exit_code", .int r.exitCode)]

/-- A finding. -/
def findingJson (f : Finding) : Except Fault Json := do
  return .object [
    ("rule_id", .string f.ruleId),
    ("group", ← f.group.toJson),
    ("title", ← f.title.toJson),
    ("severity", .string f.severity.word),
    ("message", .string f.message),
    ("remediation", ← f.remediation.toJson)]

/-- The document of a report. What the catalog holds beside the checks may have no form in JSON. -/
def toJson (r : Report) : Except Fault Json := do
  let classification := match r.classification with
    | some c => [("classification", classificationJson c)]
    | none => []
  let findings ← r.findings.mapM findingJson
  return .object ([("meta", metaJson r)] ++ classification ++
    [("summary", summaryJson r), ("findings", .array findings)])

/-- The document of a report as text. -/
def jsonText (r : Report) : Except Fault String := return (← r.toJson).indented

end ModuleAudit.Report
