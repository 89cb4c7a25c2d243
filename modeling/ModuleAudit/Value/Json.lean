import ModuleAudit.Fault
import ModuleAudit.Json.Text
import ModuleAudit.Value.Text

/-!
# Values as JSON

`Value.toJson` is the JSON document of a value. A key of a map that is no string is written as text
where JSON has a word for it. Values that JSON knows nothing of (dates, bytes, sets) are a fault,
and so are values without an end.
-/

namespace ModuleAudit.Value

/-- The fault of a value that JSON has no form for. -/
def notJson (v : Value) : Fault :=
  .wrongKind s!"Object of type {v.kindName} is not JSON serializable"

/-- A key of a map as the key of an object. -/
def jsonKey : Value → Except Fault String
  | .text s => .ok s
  | .null => .ok "null"
  | .bool b => .ok (if b then "true" else "false")
  | .int n => if isWritable n then .ok (toString n) else .error .numberTooLong
  | .real x => .ok (Json.real x).compact
  | .nan _ => .ok "NaN"
  | v => .error (.wrongKind s!"keys must be str, int, float, bool or None, not {v.kindName}")

mutual

/-- The JSON document of a value. -/
def toJson : Value → Except Fault Json
  | .null => .ok .null
  | .bool b => .ok (.bool b)
  | .int n => if isWritable n then .ok (.int n) else .error .numberTooLong
  | .real x => .ok (.real x)
  | .nan _ => .ok (.real .nan)
  | .again _ => .error (.badValue "Circular reference detected")
  | .text s => .ok (.string s)
  | .list items => return .array (← toItems items)
  | .tuple items => return .array (← toItems items)
  | .map entries => return .object (← toMembers entries)
  | v => .error (notJson v)

/-- The JSON documents of values in a row. -/
def toItems : List Value → Except Fault (List Json)
  | [] => .ok []
  | v :: vs => return (← toJson v) :: (← toItems vs)

/-- The members of an object with the entries of a map. -/
def toMembers : List (Value × Value) → Except Fault (List (String × Json))
  | [] => .ok []
  | (k, v) :: rest => return (← jsonKey k, ← toJson v) :: (← toMembers rest)

end

end ModuleAudit.Value
