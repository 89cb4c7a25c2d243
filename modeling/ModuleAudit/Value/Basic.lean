import ModuleAudit.Json.Basic
import ModuleAudit.Value.Time

/-!
# Values

A `Value` is what a field of a catalog or a fact may hold: the parts of a JSON document, maps whose
keys are values themselves, and the dates, byte strings, tuples and sets that a catalog file can
spell. A file can also spell a value that is a part of itself: it is unrolled up to the place where
it starts again. `Value.same` is equality of what values stand for: a truth value equals the number
it counts as, numbers are compared exactly, and the order of a map does not matter. Only hashable
values can be keys (`Value.isHashable`).
-/

namespace ModuleAudit

/-- A value of a catalog field or of a fact. -/
inductive Value
  | null
  | bool (b : Bool)
  | int (n : Int)
  | real (x : Binary64)
  | text (s : String)
  | list (items : List Value)
  | map (entries : List (Value × Value))
  | tuple (items : List Value)
  | set (items : List Value)
  | bytes (content : List UInt8)
  | date (year month day : Nat)
  | time (point : TimePoint)
  /-- What is not a number, although it is one of them. Two such values are the same if they are
  one. -/
  | nan (identity : Nat)
  /-- A list or a map that the value is a part of, and where it starts again. -/
  | again (map : Bool)
  deriving Repr, Inhabited

namespace Value

mutual

/-- Whether the value can be a key. -/
def isHashable : Value → Bool
  | list _ => false
  | map _ => false
  | set _ => false
  | again _ => false
  | tuple items => allHashable items
  | _ => true

/-- Whether all values can be keys. -/
def allHashable : List Value → Bool
  | [] => true
  | v :: vs => isHashable v && allHashable vs

end

/-- Whether the value can be looked for in a set. A set can, although it cannot be in one. -/
def isSearchable : Value → Bool
  | set _ => true
  | v => v.isHashable

/-- Whether a double-precision number equals a whole number. -/
def realIsInt (x : Binary64) (n : Int) : Bool := x.compareInt n == some .eq

/-- The whole number that a truth value counts as. -/
def boolInt (b : Bool) : Int := if b then 1 else 0

mutual

/-- Whether two values stand for the same. -/
def same : Value → Value → Bool
  | null, null => true
  | bool a, bool b => a == b
  | bool a, int b => boolInt a == b
  | int a, bool b => a == boolInt b
  | int a, int b => a == b
  | bool a, real b => realIsInt b (boolInt a)
  | real a, bool b => realIsInt a (boolInt b)
  | int a, real b => realIsInt b a
  | real a, int b => realIsInt a b
  | real a, real b => a.same b
  | text a, text b => a == b
  | list a, list b => sameItems a b
  | tuple a, tuple b => sameItems a b
  | map a, map b => a.length == b.length && sameEntries a b
  | set a, set b => a.length == b.length && subset a b
  | bytes a, bytes b => a == b
  | date y m d, date y' m' d' => y == y' && m == m' && d == d'
  | time a, time b => a.same b
  | nan i, nan j => i == j
  | again a, again b => a == b
  | _, _ => false

/-- Whether two lists hold the same values at the same places. -/
def sameItems : List Value → List Value → Bool
  | [], [] => true
  | a :: as, b :: bs => same a b && sameItems as bs
  | _, _ => false

/-- Whether every entry is among the entries of another map. -/
def sameEntries : List (Value × Value) → List (Value × Value) → Bool
  | [], _ => true
  | (k, v) :: rest, b => (b.any fun (k', v') => same k k' && same v v') && sameEntries rest b

/-- Whether every value is among the members of another set. -/
def subset : List Value → List Value → Bool
  | [], _ => true
  | a :: as, b => (b.any fun x => same a x) && subset as b

end

/-- The value that a map holds under a string. -/
def get? (v : Value) (key : String) : Option Value :=
  match v with
  | map entries => (entries.find? fun (k, _) => same k (text key)).map (·.2)
  | _ => none

/-- Whether a map has a string among its keys. -/
def has (v : Value) (key : String) : Bool := (v.get? key).isSome

/-- Whether two values are equal on their own. What is not a number does not even equal itself,
unless it stands in a collection. -/
def equals (a b : Value) : Bool :=
  match a, b with
  | nan _, nan _ => false
  | a, b => same a b

/-- Whether a value is a map. -/
def isMap : Value → Bool
  | map _ => true
  | again isMap => isMap
  | _ => false

/-- The entries with the value under a key replaced, or added at the end. -/
def setEntry {α : Type} (key : Value) (value : α) : List (Value × α) → List (Value × α)
  | [] => [(key, value)]
  | (k, v) :: rest => if same k key then (k, value) :: rest else (k, v) :: setEntry key value rest

/-- Whether a value counts as true: it is neither absent, false, zero nor empty. -/
def isTruthy : Value → Bool
  | null => false
  | bool b => b
  | int n => n != 0
  | real x => !x.isZero
  | text s => !s.isEmpty
  | list items => !items.isEmpty
  | map entries => !entries.isEmpty
  | tuple items => !items.isEmpty
  | set items => !items.isEmpty
  | bytes content => !content.isEmpty
  | date .. => true
  | time _ => true
  | nan _ => true
  | again _ => true

mutual

/-- The value of a JSON document. -/
def ofJson : Json → Value
  | .null => null
  | .bool b => bool b
  | .int n => int n
  | .real x => real x
  | .string s => text s
  | .array items => list (ofItems items)
  | .object members => map (ofMembers members)

/-- The values of the items of an array. -/
def ofItems : List Json → List Value
  | [] => []
  | j :: js => ofJson j :: ofItems js

/-- The entries of the members of an object. -/
def ofMembers : List (String × Json) → List (Value × Value)
  | [] => []
  | (k, j) :: ms => (text k, ofJson j) :: ofMembers ms

end

end Value

end ModuleAudit
