import ModuleAudit.Checks.Basic
import ModuleAudit.Template.Fill

/-!
# Rule catalogs

A `Catalog` lists rules in groups. A rule has a level, a check, and the conditions under which it
applies: its own and that of its group. `Rule.skipReason` tells why a rule does not apply to a
module. Titles, skip messages and remediations are the values that the catalog's document holds:
nothing is asked of them until they are used.
-/

namespace ModuleAudit

/-- How a violation of a rule counts. -/
inductive RuleLevel
  | error
  | warning
  deriving DecidableEq, Repr

namespace RuleLevel

/-- The word for a level. -/
def word : RuleLevel → String
  | error => "error"
  | warning => "warning"

/-- The level that a value spells. -/
def ofValue? (v : Value) : Option RuleLevel := [error, warning].find? fun l => v.same (.text l.word)

/-- The severity of a violation. -/
def severity : RuleLevel → Severity
  | error => .fail
  | warning => .warn

end RuleLevel

/-- What is said of a rule that does not apply, if the catalog says nothing. -/
def defaultSkip : Value := .text "not applicable"

/-- A group of rules. -/
structure RuleGroup where
  id : Value
  number : Int
  title : Value
  /-- When the rules of the group apply; always, if it is absent. -/
  condition : Value := .null
  skip : Value := defaultSkip

/-- A rule with its check. -/
structure Rule where
  id : String
  title : Value
  group : RuleGroup
  level : RuleLevel
  check : RuleCheck
  /-- Whether a shared base class takes care of the rule. -/
  inherited : Bool := false
  /-- When the rule applies; always, if it is absent. -/
  condition : Value := .null
  skip : Value := defaultSkip
  remediation : Value := .null

namespace Rule

/-- A skip message with the facts filled in. -/
def skipText (facts : Facts) : Value → Except Fault String
  | .text template => Template.fill facts template
  | v => .error (.missingPart v.kindName "format_map")

/-- Why the rule does not apply to a module with these facts, if it does not. The condition of the
group comes first. -/
def skipReason (r : Rule) (facts : Facts) : Except Fault (Option String) := do
  if !(← Condition.evaluate facts r.group.condition) then
    return some (← skipText facts r.group.skip)
  else if !(← Condition.evaluate facts r.condition) then return some (← skipText facts r.skip)
  else return none

end Rule

/-- A rule catalog. -/
structure Catalog where
  path : Path
  groups : List RuleGroup
  rules : List Rule

namespace Catalog

/-- The rule with an id. -/
def rule (c : Catalog) (id : String) : Except Fault Rule :=
  match c.rules.find? (·.id == id) with
  | some r => .ok r
  | none => .error (.missingKey id)

end Catalog

end ModuleAudit
