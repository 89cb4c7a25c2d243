import ModuleAudit.Catalog.Validation
import ModuleAudit.Text.Lines
import ModuleAudit.Value.Whole
import ModuleAudit.Yaml.Unfolding

/-!
# From documents to catalogs

`Catalog.ofDocument` makes a catalog of a document without problems. Each rule is bound to the check
of its id and to the group it names. The groups come in the order of their numbers, the rules in the
order of their ids.
-/

namespace ModuleAudit.Catalog

/-- A field of an entry. -/
def fieldOf (entry : Value) (key : String) : Except Fault Value :=
  match entry.get? key with
  | some v => .ok v
  | none => .error (.missingKey key)

/-- The group of an entry. -/
def groupOf (entry : Value) : Except Fault RuleGroup := do
  return {
    id := ← fieldOf entry "id"
    number := ← (← fieldOf entry "number").toInt
    title := ← fieldOf entry "title"
    condition := (entry.get? "condition").getD .null
    skip := (entry.get? "skip").getD defaultSkip }

/-- The group that a rule names. -/
def groupNamed (groups : List RuleGroup) (id : Value) : Except Fault RuleGroup :=
  match groups.find? fun g => isKnown id [g.id] with
  | some g => .ok g
  | none => .error (.missingKey id.plain)

/-- The check of a rule. -/
def checkOf (checks : Registry RuleCheck) (id : String) : Except Fault RuleCheck :=
  match checks.lookup id with
  | some c => .ok c
  | none => .error (.missingKey id)

/-- The level of a rule. -/
def levelOf (v : Value) : Except Fault RuleLevel :=
  match RuleLevel.ofValue? v with
  | some l => .ok l
  | none => .error (.badValue (v.shown ++ " is not a valid RuleLevel"))

/-- The rule of an entry. -/
def ruleOf (groups : List RuleGroup) (checks : Registry RuleCheck) (entry : Value) :
    Except Fault Rule := do
  let id := (← fieldOf entry "id").plain
  return {
    id
    title := ← fieldOf entry "title"
    group := ← groupNamed groups (← fieldOf entry "group")
    level := ← levelOf (← fieldOf entry "level")
    check := ← checkOf checks id
    inherited := ((entry.get? "inherited").getD (.bool false)).isTruthy
    condition := (entry.get? "condition").getD .null
    skip := (entry.get? "skip").getD defaultSkip
    remediation := (entry.get? "remediation").getD .null }

/-- The list that a document holds under a key. -/
def listOf (document : Value) (list : Section) (otherwise : CatalogCause) :
    Except CatalogCause (List Value) :=
  match document.get? list.key with
  | none => .ok []
  | some (.list items) => .ok items
  | some _ => .error otherwise

/-- The lists of groups and rules that a document holds. -/
def entriesOf (document : Value) : Except CatalogCause (List Value × List Value) := do
  if document.isMap then
    return (← listOf document .groups .groupsNotList, ← listOf document .rules .rulesNotList)
  else .error .notMap

/-- The fault of a catalog. -/
def faulty (path : Path) (cause : CatalogCause) : Fault := .invocation (.catalog path cause)

/-- The catalog of a document that was found at a path. -/
def ofDocument (path : Path) (checks : Registry RuleCheck) (document : Value) :
    Except Fault Catalog := do
  let (groups, rules) ← (entriesOf document).mapError (faulty path)
  let found ← problems groups rules checks.ids
  if !found.isEmpty then .error (faulty path (.problems (found.map (·.message))))
  else
    let groups ← groups.mapM groupOf
    let rules ← rules.mapM (ruleOf groups checks)
    return {
      path
      groups := groups.mergeSort fun a b => a.number ≤ b.number
      rules := rules.mergeSort fun a b => a.id ≤ b.id }

/-- How many levels of a document are taken apart: the document, its lists, and their entries. -/
def depth : Nat := 3

/-- The catalog at a path. -/
def load (path : Path) (checks : Registry RuleCheck) : Inspect Catalog := do
  match (← read).disk.read path with
  | .error .nullCharacter => Inspect.fault (.access path .nullCharacter)
  | .error e => Inspect.fault (faulty path (.unreadable e))
  | .ok bytes =>
    match Text.Utf8.decodeStrict? bytes with
    | none => Inspect.fault .undecodable
    | some chars =>
      match Yaml.read depth (Text.foldLineEnds chars) with
      | .error .malformed => Inspect.fault (faulty path .malformed)
      | .error (.fault f) => Inspect.fault f
      | .ok document =>
        match ofDocument path checks document with
        | .error f => Inspect.fault f
        | .ok catalog => return catalog

end ModuleAudit.Catalog
