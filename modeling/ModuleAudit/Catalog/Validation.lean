import ModuleAudit.Catalog.Basic
import ModuleAudit.Checks.Registry
import ModuleAudit.Condition.Validation
import ModuleAudit.Text.Digit

/-!
# Checking catalogs

`Catalog.problems` lists what is wrong with the entries of a catalog document, groups first, each
list in the order of the document; the checks that no rule uses come last. Values that cannot be
compared as ids are a fault.
-/

namespace ModuleAudit.Catalog

/-- The two lists of a catalog. -/
inductive Section
  | groups
  | rules
  deriving DecidableEq, Repr

/-- The key of a list. -/
def Section.key : Section → String
  | groups => "groups"
  | rules => "rules"

/-- What is wrong with an entry. -/
inductive EntryCause
  | notMap (kindName : String)
  | missingKeys (keys : List String)
  | duplicateGroup
  /-- An id that is not of the form that rule ids have. -/
  | malformedId
  | duplicateRule
  /-- No check is registered under the id. -/
  | noCheck
  | unknownGroup (written : String)
  | unknownLevel (written : String)
  | condition (problem : Condition.Problem)
  deriving DecidableEq, Repr

/-- What is wrong with a catalog. -/
inductive Problem
  /-- A problem of the entry at an index; `id` is the id of the entry as messages show it. -/
  | entry (list : Section) (index : Nat) (id : String) (cause : EntryCause)
  /-- A check that no rule uses. -/
  | unusedCheck (ruleId : String)
  deriving DecidableEq, Repr

/-- The levels of rules, in alphabetic order. -/
def levels : List String := ["error", "warning"]

/-- What is said about an entry after its place. -/
def EntryCause.message (id : String) : EntryCause → String
  | notMap kindName => "expected dict, got " ++ kindName
  | missingKeys keys => "missing keys: " ++ Value.shownStrings keys
  | duplicateGroup => s!"duplicate group id '{id}'"
  | malformedId => "id must look like CHK-123"
  | duplicateRule => "duplicate rule id"
  | noCheck => "no predicate registered for this rule"
  | unknownGroup written => s!"unknown group '{written}'"
  | unknownLevel written =>
    s!"unknown level '{written}' (valid: " ++ Value.shownStrings levels ++ ")"
  | condition problem => problem.message

/-- Whether the message about an entry names its id beside its index. -/
def EntryCause.namesId : EntryCause → Bool
  | notMap _ | duplicateGroup => false
  | _ => true

/-- The problem in words. -/
def Problem.message : Problem → String
  | entry list index id cause =>
    let named := if cause.namesId then s!" (id={id})" else ""
    s!"{list.key}[{index}]" ++ named ++ ": " ++ cause.message id
  | unusedCheck ruleId => ruleId ++ ": predicate registered but missing from the catalog"

/-! ## Ids -/

/-- The id of an entry as messages show it. -/
def shownId (entry : Value) : Except Fault String := ((entry.get? "id").getD (.text "?")).plain?

/-- A value that is about to be a key; one that cannot be a key is a fault. -/
def keyed (v : Value) : Except Fault Value :=
  if v.isHashable then .ok v else .error (.wrongKind s!"unhashable type: '{v.kindName}'")

/-- A value that is about to be looked for in a set; one that cannot be is a fault. -/
def sought (v : Value) : Except Fault Value :=
  if v.isSearchable then .ok v else .error (.wrongKind s!"unhashable type: '{v.kindName}'")

/-- Whether a value is among some keys. -/
def isKnown (v : Value) (keys : List Value) : Bool := keys.any fun k => v.same k

/-- Whether a text has the form of a rule id: three digits after a fixed start. A line end after it
is passed over. -/
def isRuleId (s : String) : Bool :=
  match s.toList with
  | 'C' :: 'H' :: 'K' :: '-' :: a :: b :: c :: rest =>
    [a, b, c].all Text.isDecimal && (rest.isEmpty || rest == ['\n'])
  | _ => false

/-! ## Groups -/

/-- The keys of a list that an entry lacks, in the order of the list. -/
def lacking (keys : List String) (entry : Value) : List String := keys.filter (!entry.has ·)

/-- The keys that an entry must have, as a cause if some are missing. -/
def missingKeys (keys : List String) (entry : Value) : List EntryCause :=
  match lacking keys entry with
  | [] => []
  | missing => [.missingKeys missing]

/-- The problems of an entry's condition, if it has one. -/
def conditionCauses (entry : Value) : Except Fault (List EntryCause) :=
  match entry.get? "condition" with
  | some condition => return (← Condition.validate condition).map .condition
  | none => .ok []

/-- The problem that the id of a group is among the ids `seen`. A group without an id counts as one
with the id nothing, but there is no id to be named then. -/
def duplicateCauses (seen : List Value) (group id : Value) : Except Fault (List EntryCause) :=
  if !isKnown id seen then .ok []
  else if group.has "id" then .ok [.duplicateGroup]
  else .error (.missingKey "id")

/-- What is wrong with a group that follows groups with the ids `seen`. -/
def groupCauses (seen : List Value) (group : Value) : Except Fault (List EntryCause) := do
  let id ← keyed ((group.get? "id").getD .null)
  let duplicate ← duplicateCauses seen group id
  let condition ← conditionCauses group
  return missingKeys ["id", "number", "title"] group ++ duplicate ++ condition

/-- The problems of an entry. Its id is written only if there are any. -/
def entryProblems (list : Section) (index : Nat) (entry : Value) :
    List EntryCause → Except Fault (List Problem)
  | [] => .ok []
  | causes => do
    let id ← shownId entry
    return causes.map (.entry list index id)

/-- The problems of groups from an index on, which follow groups with the ids `seen`. -/
def groupProblems (index : Nat) (seen : List Value) : List Value → Except Fault (List Problem)
  | [] => .ok []
  | group :: rest => do
    if group.isMap then
      let causes ← groupCauses seen group
      let problems ← entryProblems .groups index group causes
      let more ← groupProblems (index + 1) ((group.get? "id").getD .null :: seen) rest
      return problems ++ more
    else
      let more ← groupProblems (index + 1) seen rest
      return .entry .groups index "?" (.notMap group.kindName) :: more

/-- The ids of the groups. -/
def groupIds (groups : List Value) : List Value := groups.filterMap (·.get? "id")

/-! ## Rules -/

/-- What is wrong with the id of a rule that follows rules with the ids `seen`. -/
def idCauses (checked : List String) (seen : List Value) (id : Value) : List EntryCause :=
  match id with
  | .text s =>
    if !isRuleId s then [.malformedId]
    else if isKnown id seen then [.duplicateRule]
    else if !checked.contains s then [.noCheck]
    else []
  | _ => [.malformedId]

/-- What is wrong with a field that is there. -/
def fieldCauses (rule : Value) (key : String) (causes : Value → Except Fault (List EntryCause)) :
    Except Fault (List EntryCause) :=
  match rule.get? key with
  | some v => causes v
  | none => .ok []

/-- The problem that a value is not a known one. -/
def unknownCauses (known : List Value) (cause : String → EntryCause) (v : Value) :
    Except Fault (List EntryCause) := do
  if isKnown (← sought v) known then return [] else return [cause (← v.plain?)]

/-- What is wrong with a rule that follows rules with the ids `seen`. -/
def ruleCauses (groups : List Value) (checked : List String) (seen : List Value) (rule : Value) :
    Except Fault (List EntryCause) := do
  let id ← fieldCauses rule "id" fun id => return idCauses checked seen (← keyed id)
  let group ← fieldCauses rule "group" (unknownCauses groups .unknownGroup)
  let level ← fieldCauses rule "level" (unknownCauses (levels.map .text) .unknownLevel)
  let condition ← conditionCauses rule
  return missingKeys ["group", "id", "level", "title"] rule ++ id ++ group ++ level ++ condition

/-- The problems of rules from an index on, which follow rules with the ids `seen`, together with
the ids of all rules. -/
def ruleProblems (groups : List Value) (checked : List String) (index : Nat) (seen : List Value) :
    List Value → Except Fault (List Problem × List Value)
  | [] => .ok ([], seen)
  | rule :: rest => do
    if rule.isMap then
      let id ← shownId rule
      let causes ← ruleCauses groups checked seen rule
      let (problems, seen) ←
        ruleProblems groups checked (index + 1) ((rule.get? "id").toList ++ seen) rest
      return (causes.map (.entry .rules index id) ++ problems, seen)
    else
      let (problems, seen) ← ruleProblems groups checked (index + 1) seen rest
      return (.entry .rules index "?" (.notMap rule.kindName) :: problems, seen)

/-- The checks that no rule uses, in alphabetic order. -/
def unusedChecks (checked : List String) (seen : List Value) : List Problem :=
  ((checked.filter fun id => !isKnown (.text id) seen).mergeSort (· ≤ ·)).map .unusedCheck

/-- What is wrong with a catalog whose rules are to use these checks. -/
def problems (groups rules : List Value) (checked : List String) : Except Fault (List Problem) := do
  let ofGroups ← groupProblems 0 [] groups
  let (ofRules, seen) ← ruleProblems (groupIds groups) checked 0 [] rules
  return ofGroups ++ ofRules ++ unusedChecks checked seen

end ModuleAudit.Catalog
