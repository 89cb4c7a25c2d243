import ModuleAudit.Condition.Basic

/-!
# Checking conditions

`Condition.validate` lists what is wrong with a condition, each problem with the path of its node. A
condition without problems can be evaluated for any facts.
-/

namespace ModuleAudit.Condition

/-- The facts that conditions may compare, in alphabetic order. -/
def knownFacts : List String :=
  ["capability.destination", "capability.source", "delegation", "destination.subtype", "purpose"]

/-- The operators of comparisons, in alphabetic order. -/
def operators : List String := ["eq", "in", "ne"]

/-- What is wrong with a node of a condition. -/
inductive Cause
  | notMap (kind : String)
  /-- The entry of a combination holds no conditions. -/
  | noChildren
  | missingKey (key : String)
  | unknownFact (written : String)
  | unknownOperator (written : String)
  | notList (kind : String)
  deriving DecidableEq, Repr

/-- What is wrong, in words. -/
def Cause.message : Cause → String
  | notMap kind => "expected dict, got " ++ kind
  | noChildren => "expected a non-empty list"
  | missingKey key => s!"missing required key '{key}'"
  | unknownFact written =>
    s!"unknown fact '{written}' (known: " ++ Value.shownStrings knownFacts ++ ")"
  | unknownOperator written =>
    s!"unknown operator '{written}' (valid: " ++ Value.shownStrings operators ++ ")"
  | notList kind => "'in' operator requires a list value, got " ++ kind

/-- What is wrong with a condition, and where. -/
structure Problem where
  path : String
  cause : Cause
  deriving DecidableEq, Repr

/-- The problem in words. -/
def Problem.message (p : Problem) : String := p.path ++ ": " ++ p.cause.message

/-- Whether a value is one of some names; a value that cannot be looked for in a set is a fault. -/
def isName (names : List String) (v : Value) : Except Fault Bool :=
  if v.isSearchable then .ok (names.any fun n => v.same (.text n))
  else .error (.wrongKind s!"unhashable type: '{v.kindName}'")

/-- Whether a value can stand for the list of the operator `in`. -/
def isListLike : Value → Bool
  | .list _ | .tuple _ | .set _ => true
  | .again isMap => !isMap
  | _ => false

/-- The problem that a field does not hold one of some names, if it is there. -/
def checkName (node : Value) (key : String) (names : List String) (cause : String → Cause)
    (path : String) :
    Except Fault (List Problem) :=
  match node.get? key with
  | none => .ok []
  | some v => do if ← isName names v then return [] else return [⟨path, cause (← v.plain?)⟩]

/-- The problems of a comparison. -/
def checkLeaf (path : String) (node : Value) : Except Fault (List Problem) := do
  let missing := ["fact", "op", "value"].filterMap fun key =>
    if node.has key then none else some (⟨path, .missingKey key⟩ : Problem)
  let fact ← checkName node "fact" knownFacts .unknownFact path
  let operator ← checkName node "op" operators .unknownOperator path
  let value := (node.get? "value").getD .null
  let list :=
    if ((node.get? "op").getD .null).same (.text "in") && !isListLike value then
      [⟨path, .notList value.kindName⟩]
    else []
  return missing ++ fact ++ operator ++ list

mutual

/-- The problems of the condition at a path. -/
def check (path : String) : Value → Except Fault (List Problem)
  | .map entries =>
    match checkEntry path "all" entries, checkEntry path "any" entries with
    | some problems, _ => problems
    | none, some problems => problems
    | none, none => checkLeaf path (.map entries)
  | .again true => .error .endless
  | v => .ok [⟨path, .notMap v.kindName⟩]

/-- The problems of the entry that combines conditions under a key, if there is such an entry. -/
def checkEntry (path key : String) : List (Value × Value) → Option (Except Fault (List Problem))
  | [] => none
  | (k, children) :: rest =>
    if k.same (.text key) then some (checkChildren (path ++ "." ++ key) children)
    else checkEntry path key rest

/-- The problems of the conditions that a value holds. -/
def checkChildren (path : String) : Value → Except Fault (List Problem)
  | .list (v :: vs) => checkItems path 0 (v :: vs)
  | .again false => .error .endless
  | _ => .ok [⟨path, .noChildren⟩]

/-- The problems of conditions in a row, from an index on. -/
def checkItems (path : String) (index : Nat) : List Value → Except Fault (List Problem)
  | [] => .ok []
  | v :: vs => do return (← check s!"{path}[{index}]" v) ++ (← checkItems path (index + 1) vs)

end

/-- The problems of a condition. -/
def validate (condition : Value) : Except Fault (List Problem) := check "condition" condition

end ModuleAudit.Condition
