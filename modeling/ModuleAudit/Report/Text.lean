import ModuleAudit.Report.Basic
import ModuleAudit.Value.Text

/-!
# Reports as text

`Report.text` is what people read: what was looked at, the findings group by group, a summary, and
what to do next.
-/

namespace ModuleAudit.Report

/-- The mark in front of a finding. -/
def mark : Severity → String
  | .pass => "[PASS]"
  | .warn => "[WARN]"
  | .fail => "[FAIL]"
  | .skip => "[SKIP]"

/-- Fixes for what goes wrong most often, each with its rule. -/
def commonFixes : List (String × String) := [
  ("CHK-203", "Add processor.completeProcessing() before building ReadResponse"),
  ("CHK-204", "Use SyncStateResponseBuilder.fromProcessingResult()"),
  ("CHK-205", "Do NOT call processor.close(); the pipeline manages its lifecycle"),
  ("CHK-206", "Use setDatasourceProductName() not setStatus()"),
  ("CHK-109", "Use ConnectorCapabilities.REPLICATION_SOURCE not .READ"),
  ("CHK-216", "Call identifyCursorFields() in schema() for incremental sync"),
  ("CHK-401", "Register the module in the parent pom.xml <modules> section")]

/-- The kind of a connector: its purpose, its delegation and its base class. -/
def kindText (c : Classification) : String :=
  let base := match c.baseType with
    | some base => if base.isEmpty then "" else " (" ++ base ++ ")"
    | none => ""
  c.purpose ++ ", " ++ c.delegation.word ++ base

/-- What was looked at. -/
def header (r : Report) : List String :=
  let module := match r.module with
    | some m => ["Verifying connector: " ++ m.name, "  module:  " ++ m.relativeDir]
    | none => []
  let primary := match r.primaryPath with
    | some p => ["  primary: " ++ r.displayPath p]
    | none => []
  let kind := match r.classification with
    | some c =>
      ("  kind:    " ++ kindText c) ::
        if c.hasDestination then ["  subtype: " ++ c.subtype.word] else []
    | none => []
  module ++ primary ++ kind

/-- The lines of one finding. The remediation is for failures only. -/
def findingLines (f : Finding) : Except Fault (List String) := do
  let first := mark f.severity ++ " " ++ f.ruleId ++ " " ++ (← f.title.plain?) ++ ": " ++ f.message
  if f.severity == .fail && f.remediation.isTruthy then
    return [first, "       fix: " ++ (← f.remediation.plain?)]
  else return [first]

/-- The lines of findings, with a heading wherever a group other than the one before (`group`)
begins. -/
def findingsLines (group : Value) : List Finding → Except Fault (List String)
  | [] => .ok []
  | f :: rest => do
    if f.group.isTruthy && !f.group.equals group then
      let heading := ["", "== " ++ (← f.group.plain?) ++ " =="]
      return heading ++ (← findingLines f) ++ (← findingsLines f.group rest)
    else return (← findingLines f) ++ (← findingsLines group rest)

/-- The counts and the outcome. -/
def summary (r : Report) : List String := [
  "", "Summary",
  "  errors:   " ++ toString r.errorCount,
  "  warnings: " ++ toString r.warningCount,
  "  outcome:  " ++ r.outcome.label, ""]

/-- What to run when all is well. -/
def nextStep (r : Report) : String :=
  "Next step: proceed with testing: mvn clean verify" ++
    match r.module with
    | some m => " -pl " ++ m.relativeDir ++ " -am"
    | none => ""

/-- What to do after the run. -/
def advice (r : Report) : List String :=
  match r.outcome with
  | .failure =>
    "Fix all [FAIL] findings before proceeding. Common fixes:" ::
      commonFixes.map fun (id, fix) => "  - " ++ fix ++ " (" ++ id ++ ")"
  | .successWithWarnings => ["Passed with warnings; review them before release.", nextStep r]
  | .success => ["All checks passed.", nextStep r]

/-- The report as text. A number of the catalog that is too long to be written is a fault. -/
def text (r : Report) : Except Fault String := do
  let findings ← findingsLines .null r.findings
  return "\n".intercalate (header r ++ findings ++ summary r ++ advice r)

end ModuleAudit.Report
