import ModuleAudit.Number.Binary64

/-!
# JSON documents

`Json` is a document: `null`, truth values, whole numbers of any size, double-precision numbers,
strings, arrays, and objects whose members keep their order.
-/

namespace ModuleAudit

/-- A JSON document. -/
inductive Json
  | null
  | bool (b : Bool)
  | int (n : Int)
  | real (x : Binary64)
  | string (s : String)
  | array (items : List Json)
  | object (members : List (String × Json))
  deriving Repr, Inhabited

namespace Json

/-- A string, or `null` where there is none. -/
def ofString? : Option String → Json
  | some s => string s
  | none => null

/-- The members of an object; nothing else has any. -/
def members : Json → List (String × Json)
  | object ms => ms
  | _ => []

/-- The items of an array; nothing else has any. -/
def items : Json → List Json
  | array xs => xs
  | _ => []

/-- The member of an object with a key. -/
def get? (j : Json) (key : String) : Option Json := j.members.lookup key

/-- The text of a string. -/
def string? : Json → Option String
  | string s => some s
  | _ => none

end Json

end ModuleAudit
