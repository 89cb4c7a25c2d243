import ModuleAudit.Fault
import ModuleAudit.Text.Occurrence
import ModuleAudit.Value.Text

/-!
# Conditions

A condition says for which facts a group or a rule of a catalog applies. It is a tree: a map with
the key `all` or `any` combines the conditions in a list, any other map compares the fact it names
with a value. `Condition.evaluate` reads the tree as it stands, without a check beforehand: a part
that has no meaning is a fault when it is reached, and parts that are not needed are not looked at.
An absent condition holds.
-/

namespace ModuleAudit

/-- What is known of a module, by name. -/
abbrev Facts := List (String × Value)

namespace Condition

/-- Whether a value counts among the items of another one, as the operator `in` has it. -/
def isAmong (actual : Value) : Value → Except Fault Bool
  | .list items => .ok (items.any fun v => actual.same v)
  | .tuple items => .ok (items.any fun v => actual.same v)
  | .set items =>
    if actual.isSearchable then .ok (items.any fun v => actual.same v)
    else .error (.wrongKind s!"unhashable type: '{actual.kindName}'")
  | .map entries =>
    if actual.isHashable then .ok (entries.any fun (k, _) => actual.same k)
    else .error (.wrongKind s!"unhashable type: '{actual.kindName}'")
  | .text s =>
    match actual with
    | .text w => .ok (Text.occursIn w.toList s.toList)
    | v => .error (.wrongKind s!"'in <string>' requires string as left operand, not {v.kindName}")
  -- A list around a comparison holds conditions, among which no fact is.
  | .again false => .ok false
  | v => .error (.wrongKind s!"argument of type '{v.kindName}' is not iterable")

/-- Compares a fact with a value. -/
def compare (operator : Value) (actual expected : Value) : Except Fault Bool :=
  match operator with
  | .text "eq" => .ok (actual.equals expected)
  | .text "ne" => .ok (!actual.equals expected)
  | .text "in" => isAmong actual expected
  | op => do .error (.unknownOperator (← op.plain?))

/-- The value of a fact; a key that cannot name one is a fault. -/
def fact? (facts : Facts) (key : Value) : Except Fault (Option Value) :=
  match key with
  | .text name => .ok (facts.lookup name)
  | key =>
    if key.isHashable then .ok none else .error (.wrongKind s!"unhashable type: '{key.kindName}'")

/-- A field of a comparison. -/
def field (node : Value) (key : String) : Except Fault Value :=
  match node.get? key with
  | some v => .ok v
  | none => .error (.missingKey key)

/-- A comparison of a fact with a value. A fact that is not known makes it false. -/
def evaluateLeaf (facts : Facts) (node : Value) : Except Fault Bool := do
  match ← fact? facts (← field node "fact") with
  | none => return false
  | some actual => compare (← field node "op") actual (← field node "value")

/-- Combines answers from left to right. The first answer that decides ends the combination: a false
one if all must hold, a true one if any must. -/
def combine (all : Bool) : List (Except Fault Bool) → Except Fault Bool
  | [] => .ok all
  | .error e :: _ => .error e
  | .ok b :: rest => if b == all then combine all rest else .ok b

/-- The fault of a value that is no condition. -/
def notCondition (v : Value) : Fault := .wrongKind s!"a condition must be a map, not {v.kindName}"

/-- The answer of a key or a character in the place of a condition. -/
def evaluateKey : Value → Except Fault Bool
  | .null => .ok true
  | v => .error (notCondition v)

mutual

/-- Whether the condition holds for the facts. -/
def evaluate (facts : Facts) : Value → Except Fault Bool
  | .null => .ok true
  | .map entries =>
    match evaluateEntry facts true "all" entries, evaluateEntry facts false "any" entries with
    | some answer, _ => answer
    | none, some answer => answer
    | none, none => evaluateLeaf facts (.map entries)
  | v => .error (notCondition v)

/-- The answer of the entry that combines conditions under a key, if there is such an entry. -/
def evaluateEntry (facts : Facts) (all : Bool) (key : String) :
    List (Value × Value) → Option (Except Fault Bool)
  | [] => none
  | (k, children) :: rest =>
    if k.same (.text key) then some (combineAll facts all children)
    else evaluateEntry facts all key rest

/-- The combined answer of the conditions that a value holds. -/
def combineAll (facts : Facts) (all : Bool) : Value → Except Fault Bool
  | .list items => evaluateItems facts all items
  | .tuple items => evaluateItems facts all items
  | .set items => evaluateItems facts all items
  | .map entries => combine all (entries.map fun (k, _) => evaluateKey k)
  | .text s => combine all (s.toList.map fun c => evaluateKey (.text c.toString))
  | .bytes content => combine all (content.map fun b => evaluateKey (.int b.toNat))
  | v => .error (.wrongKind s!"'{v.kindName}' object is not iterable")

/-- The combined answer of conditions, from left to right. -/
def evaluateItems (facts : Facts) (all : Bool) : List Value → Except Fault Bool
  | [] => .ok all
  | v :: vs =>
    match evaluate facts v with
    | .error e => .error e
    | .ok b => if b == all then evaluateItems facts all vs else .ok b

end

end Condition

end ModuleAudit
