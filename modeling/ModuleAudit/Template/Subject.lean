import ModuleAudit.Value.Kind
import ModuleAudit.Value.Text

/-!
# What a field of a template comes to

A field names a fact and then parts of it. The parts of a value in square brackets are its items;
those after a dot are what is known about it: the components of a number, and the kind of the value.
A kind has parts too: its name, what it says about itself, and the more general kinds.
-/

namespace ModuleAudit.Template

/-- What a field comes to. -/
inductive Subject
  | value (v : Value)
  | kind (k : ValueKind)
  | kinds (ks : List ValueKind)
  deriving Repr

namespace Subject

/-- The kind of a subject. -/
def kindOf : Subject → ValueKind
  | value v => v.kind
  | kind _ => .kind
  | kinds _ => .tuple

/-- The subject in a message, strings quoted. -/
def shown : Subject → String
  | value v => v.shown
  | kind k => k.shown
  | kinds ks => "(" ++ ", ".intercalate (ks.map (·.shown)) ++ (if ks.length == 1 then ",)" else ")")

/-- The subject in a message, if its numbers can be written. -/
def shown? : Subject → Except Fault String
  | value v => v.shown?
  | s => .ok s.shown

/-- The subject in running text. -/
def plain : Subject → Except Fault String
  | value v => v.plain?
  | s => .ok s.shown

/-! ## Parts after a dot -/

/-- What a kind says about itself, or nothing. -/
def descriptionOf (k : ValueKind) : Subject := value ((k.description?.map .text).getD .null)

/-- A component of a whole number. -/
def wholeComponent? (n : Int) : String → Option Value
  | "real" | "numerator" => some (.int n)
  | "imag" => some (.int 0)
  | "denominator" => some (.int 1)
  | _ => none

/-- A component of a fractional number. -/
def realComponent? (x : Value) : String → Option Value
  | "real" => some x
  | "imag" => some (.real (.zero false))
  | _ => none

/-- A component of a value. Collections that can change have no hash. -/
def component? (v : Value) (name : String) : Option Value :=
  match v with
  | .bool b => wholeComponent? (Value.boolInt b) name
  | .int n => wholeComponent? n name
  | .real _ | .nan _ => realComponent? v name
  | .list _ | .map _ => if name == "__hash__" then some .null else none
  | _ => none

/-- A part of a kind. -/
def kindPart? (k : ValueKind) : String → Option Subject
  | "__name__" | "__qualname__" => some (value (.text k.name))
  | "__module__" => some (value (.text "builtins"))
  | "__doc__" => some (descriptionOf k)
  | "__mro__" => some (kinds k.lineage)
  | "__base__" => some ((k.base?.map kind).getD (value .null))
  | "__bases__" => some (kinds k.base?.toList)
  | "__hash__" => if k == .list || k == .map then some (value .null) else none
  | _ => none

/-- The part of a subject with a name, if it has one. -/
def part? (s : Subject) (name : String) : Option Subject :=
  match s, name with
  | s, "__class__" => some (kind s.kindOf)
  | kind k, name => kindPart? k name
  | s, "__doc__" => some (descriptionOf s.kindOf)
  | value v, name => (component? v name).map value
  | kinds _, _ => none

/-! ## Items -/

/-- The item at a position in a row. -/
def inRow {α : Type} (row : String) (items : List α) (n : Nat) : Except Fault α :=
  match items[n]? with
  | some item => .ok item
  | none => .error (.outOfRange (row ++ " index out of range"))

/-- The complaint that a subject has no items. -/
def noItems (s : Subject) : Fault := .wrongKind s!"'{s.kindOf.name}' object is not subscriptable"

/-- The item of a subject at a position. -/
def itemAt (s : Subject) (n : Nat) : Except Fault Subject :=
  match s with
  | value (.text t) => return value (.text (← inRow "string" t.toList n).toString)
  | value (.list items) => return value (← inRow "list" items n)
  | kinds ks => return kind (← inRow "tuple" ks n)
  | value (.map entries) =>
    match entries.find? fun (k, _) => k.same (.int n) with
    | some (_, v) => .ok (value v)
    | none => .error (.missingNumber n)
  | s => .error (noItems s)

/-- The item of a subject under a name. -/
def itemNamed (s : Subject) (name : String) : Except Fault Subject :=
  match s with
  | value (.map entries) =>
    match (Value.map entries).get? name with
    | some v => .ok (value v)
    | none => .error (.missingKey name)
  | value (.text _) | value (.list _) | kinds _ =>
    .error (.wrongKind s!"{s.kindOf.name} indices must be integers or slices, not str")
  | s => .error (noItems s)

end Subject

end ModuleAudit.Template
