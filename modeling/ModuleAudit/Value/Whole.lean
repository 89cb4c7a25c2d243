import ModuleAudit.Fault
import ModuleAudit.Number.Reading
import ModuleAudit.Value.Text

/-!
# The whole number of a value

`Value.toInt` is the whole number that a value stands for or spells: truth values count as zero and
one, fractions are cut off toward zero, and text is read as people type whole numbers.
-/

namespace ModuleAudit.Value

open ModuleAudit.Number (readSign trimMargin readDigits readInt?)

/-- How many digits a whole number may have. -/
def mostDigits : Nat := 4300

/-- How many digits stand at the front of a number. -/
def leadingDigits (s : String) : Nat :=
  match readDigits (readSign (trimMargin s.toList)).2 with
  | some (_, count, _) => count
  | none => 0

/-- The whole number that a text spells; `shown` is the text as messages show it. -/
def intOfText (s shown : String) : Except Fault Int :=
  let count := leadingDigits s
  if count > mostDigits then .error (.tooManyDigits count)
  else
    match readInt? s with
    | some n => .ok n
    | none => .error (.notNumber 10 shown)

/-- The whole number of a double-precision number. -/
def intOfReal (x : Binary64) : Except Fault Int :=
  match x.truncate?, x with
  | some n, _ => .ok n
  | none, .infinite _ => .error .infinite
  | none, _ => .error (.badValue "cannot convert float NaN to integer")

/-- Bytes as text, one character for each. -/
def textOfBytes (content : List UInt8) : String :=
  String.ofList (content.map fun b => if b < 0x80 then Char.ofNat b.toNat else '\ufffd')

/-- The whole number of a value. -/
def toInt : Value → Except Fault Int
  | bool b => .ok (boolInt b)
  | int n => .ok n
  | real x => intOfReal x
  | nan _ => intOfReal .nan
  | text s => intOfText s (Text.quote s)
  | bytes content => intOfText (textOfBytes content) (bytesText content)
  | v => .error (.wrongKind
      s!"int() argument must be a string, a bytes-like object or a real number, not '{v.kindName}'")

end ModuleAudit.Value
