import ModuleAudit.Catalog.Basic
import ModuleAudit.Report.Basic

/-!
# Evaluating rules

`Audit.findings` evaluates the rules of a catalog against one module, in the order of their ids, and
gives one finding for each. No rule sees what another one found, and a fault in what runs under a
rule is a failure of that rule alone. Only a skip message that cannot be filled in ends the run.
-/

namespace ModuleAudit.Audit

/-- What is said of a rule that a shared base class takes care of. -/
def inheritedMessage : String := "inherited from base"

/-- The finding of a rule. Only a failure comes with a remediation. -/
def findingOf (r : Rule) (severity : Severity) (message : String) : Finding := {
  ruleId := r.id
  title := r.title
  severity
  message
  remediation := if severity == .fail then r.remediation else .null
  group := r.group.title }

/-- The fault of something that is no verdict. -/
def notVerdict (kindName : String) : Fault :=
  .wrongKind ("predicate returned " ++ kindName ++ ", expected Verdict")

/-- The verdict on a module of what runs under a rule, or why there is none. -/
def verdictOf (r : Rule) (settings : Settings) (files : FileSet) :
    Inspect (Except Fault Verdict) := do
  match ← (r.check files settings).attempt with
  | .ok (.verdict v) => return .ok v
  | .ok (.other kindName) => return .error (notVerdict kindName)
  | .error e => return .error e

/-- A fault in words, after its kind. -/
def faultText (e : Fault) : String := e.kindName ++ ": " ++ e.message

/-- The severity of a verdict on a rule. -/
def severityOf (r : Rule) (v : Verdict) : Severity := v.severity.getD r.level.severity

/-- The finding of a rule that runs. -/
def examine (r : Rule) (settings : Settings) (files : FileSet) : Inspect Finding := do
  match ← verdictOf r settings files with
  | .ok v =>
    Inspect.log .debug .engine (r.id ++ " -> " ++ (severityOf r v).word ++ ": " ++ v.message)
    return findingOf r (severityOf r v) v.message
  | .error e =>
    Inspect.log .error .engine (r.id ++ " raised " ++ faultText e)
    Inspect.log .debug .engine ("traceback for " ++ r.id)
    return findingOf r .fail ("rule raised " ++ faultText e)

/-- The finding of a rule. -/
def evaluate (settings : Settings) (files : FileSet) (c : Classification) (r : Rule) :
    Inspect Finding := do
  match ← Inspect.ofExcept (r.skipReason c.facts) with
  | some reason => return findingOf r .skip reason
  | none =>
    if r.inherited && c.isBaseDelegated then return findingOf r .pass inheritedMessage
    else examine r settings files

/-- The rules in the order in which they are evaluated. -/
def inOrder (rules : List Rule) : List Rule := rules.mergeSort fun a b => a.id ≤ b.id

/-- The findings of some rules on a module. -/
def findings (rules : List Rule) (settings : Settings) (files : FileSet) (c : Classification) :
    Inspect (List Finding) := do
  Inspect.log .info .engine (s!"evaluating {rules.length} rules for {files.module.name} " ++
    s!"({c.purpose}, {c.delegation.word})")
  (inOrder rules).mapM (evaluate settings files c)

end ModuleAudit.Audit
