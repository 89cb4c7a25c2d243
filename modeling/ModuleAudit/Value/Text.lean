import ModuleAudit.Fault
import ModuleAudit.Number.Text
import ModuleAudit.Text.Quoted
import ModuleAudit.Value.Kind

/-!
# Values in messages

A message shows a value in one of two ways: `Value.shown` quotes every string, `Value.plain` gives a
string, a date or a point in time as it is.
-/

namespace ModuleAudit.Value

open ModuleAudit.Text (hexDigits quote)

/-- A byte inside quotes. -/
def byteText (q : Char) (b : UInt8) : List Char :=
  let c := Char.ofNat b.toNat
  if c == q || c == '\\' then ['\\', c]
  else if c == '\n' then ['\\', 'n']
  else if c == '\r' then ['\\', 'r']
  else if c == '\t' then ['\\', 't']
  else if 0x20 ≤ b && b < 0x7f then [c]
  else '\\' :: 'x' :: hexDigits 2 b.toNat

/-- Bytes between quotes. -/
def bytesText (content : List UInt8) : String :=
  let q := if content.contains 0x27 && !content.contains 0x22 then '"' else '\x27'
  String.ofList ('b' :: q :: content.flatMap (byteText q) ++ [q])

mutual

/-- The value in a message, strings quoted. -/
def shown : Value → String
  | null => "None"
  | bool b => if b then "True" else "False"
  | int n => toString n
  | real x => x.text .exact
  | text s => quote s
  | list items => "[" ++ ", ".intercalate (shownItems items) ++ "]"
  | map entries => "\x7b" ++ ", ".intercalate (shownEntries entries) ++ "\x7d"
  | tuple items =>
    let parts := shownItems items
    "(" ++ ", ".intercalate parts ++ (if parts.length == 1 then ",)" else ")")
  | set items =>
    if items.isEmpty then "set()" else "\x7b" ++ ", ".intercalate (shownItems items) ++ "\x7d"
  | bytes content => bytesText content
  | date y m d => s!"datetime.date({y}, {m}, {d})"
  | time t => t.shown
  | nan _ => "nan"
  | again isMap => if isMap then "\x7b...\x7d" else "[...]"

/-- The values of a list in a message. -/
def shownItems : List Value → List String
  | [] => []
  | v :: vs => shown v :: shownItems vs

/-- The entries of a map in a message. -/
def shownEntries : List (Value × Value) → List String
  | [] => []
  | (k, v) :: rest => (shown k ++ ": " ++ shown v) :: shownEntries rest

end

/-- The value in a message that puts quotes around it, or in running text. -/
def plain : Value → String
  | text s => s
  | date y m d => padded 4 y ++ "-" ++ padded 2 m ++ "-" ++ padded 2 d
  | time t => t.written
  | v => shown v

/-! ## Numbers that are too long -/

/-- The least whole number with more digits than are written. -/
def tooLong : Nat := Nat.pow 10 4300

/-- Whether a whole number has no more digits than are written. -/
def isWritable (n : Int) : Bool := n.natAbs < tooLong

mutual

/-- Whether all whole numbers in a value can be written. -/
def isShowable : Value → Bool
  | int n => isWritable n
  | list items => allShowable items
  | tuple items => allShowable items
  | set items => allShowable items
  | map entries => entriesShowable entries
  | _ => true

/-- Whether all whole numbers in values can be written. -/
def allShowable : List Value → Bool
  | [] => true
  | v :: vs => isShowable v && allShowable vs

/-- Whether all whole numbers in the entries of a map can be written. -/
def entriesShowable : List (Value × Value) → Bool
  | [] => true
  | (k, v) :: rest => isShowable k && isShowable v && entriesShowable rest

end

/-- The value in a message, if its numbers can be written. -/
def shown? (v : Value) : Except Fault String :=
  if isShowable v then .ok (shown v) else .error .numberTooLong

/-- The value in running text, if its numbers can be written. -/
def plain? (v : Value) : Except Fault String :=
  if isShowable v then .ok (plain v) else .error .numberTooLong

/-- Strings in a message, as a list. -/
def shownStrings (ss : List String) : String := shown (list (ss.map text))

end ModuleAudit.Value
