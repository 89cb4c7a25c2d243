import ModuleAudit.Checks.Basic
import ModuleAudit.Connector.Classification

/-!
# Reports

A run ends with one `Finding` for each rule. `Report.ofFindings` counts what is wrong among them:
failures are errors, warnings are warnings, all else counts toward nothing. The counts decide the
`Outcome`, and the outcome the exit code.
-/

namespace ModuleAudit

/-- What a run says about one rule. Title, remediation and group are what the catalog holds. -/
structure Finding where
  ruleId : String
  title : Value
  severity : Severity
  message : String
  remediation : Value := .null
  /-- The title of the group. -/
  group : Value := .null

/-- How a run ends. -/
inductive Outcome
  | success
  | successWithWarnings
  | failure
  deriving DecidableEq, Repr

namespace Outcome

/-- The word for an outcome. -/
def word : Outcome → String
  | success => "success"
  | successWithWarnings => "success_with_warnings"
  | failure => "failure"

/-- The outcome in capitals. -/
def label : Outcome → String
  | success => "SUCCESS"
  | successWithWarnings => "SUCCESS WITH WARNINGS"
  | failure => "FAILURE"

/-- The outcome of a number of errors and a number of warnings. -/
def ofCounts (errors warnings : Int) : Outcome :=
  if errors > 0 then failure else if warnings > 0 then successWithWarnings else success

/-- The exit code that tells an outcome: only a failure differs. -/
def exitCode : Outcome → Nat
  | failure => 1
  | _ => 0

end Outcome

/-- The exit code of a run that cannot start. -/
def invocationExitCode : Nat := 2

/-- The findings of a run with what they amount to. -/
structure Report where
  findings : List Finding
  errorCount : Nat
  warningCount : Nat
  outcome : Outcome
  exitCode : Nat
  classification : Option Classification := none
  module : Option Module := none
  primaryPath : Option Path := none

namespace Report

/-- The number of findings of a severity. -/
def countOf (s : Severity) (findings : List Finding) : Nat := findings.countP (·.severity == s)

/-- The report on some findings. -/
def ofFindings (findings : List Finding) (classification : Option Classification := none)
    (module : Option Module := none) (primaryPath : Option Path := none) : Report :=
  let errorCount := countOf .fail findings
  let warningCount := countOf .warn findings
  let outcome := .ofCounts errorCount warningCount
  { findings, errorCount, warningCount, outcome, exitCode := outcome.exitCode, classification, module,
    primaryPath }

/-- The path of the connector class in the report: below the module's directory, if it lies
there. -/
def displayPath (r : Report) (p : Path) : String :=
  match r.module.bind fun m => p.relativeTo? m.directory with
  | some way => way.toString
  | none => p.toString

end Report

end ModuleAudit
