import ModuleAudit.Markup.Malformed

/-!
# The units of a document

A document comes as text, but a zero among the first two bytes of that text tells that it was meant
as units of two bytes each. `Units.ofDocument` gives the characters that a document is read as, and
whether a single byte is left over at its end.
-/

namespace ModuleAudit.Markup

/-- The characters that a document is read as. -/
structure Units where
  chars : List Char
  /-- Whether a byte is left over that makes up no character. -/
  hasTail : Bool

namespace Units

/-- A character that no document may hold, for units that spell none. -/
def illegal : Char := '\uffff'

/-- The character of two units that stand for one. -/
def pairChar (high low : Nat) : Char :=
  Char.ofNat (0x10000 + (high - 0xd800) * 0x400 + (low - 0xdc00))

/-- The characters that units of two bytes spell. -/
def ofUnits : List Nat → List Char
  | [] => []
  | u :: v :: rest =>
    if 0xd800 ≤ u && u < 0xdc00 && 0xdc00 ≤ v && v < 0xe000 then pairChar u v :: ofUnits rest
    else (if u.isValidChar then Char.ofNat u else illegal) :: ofUnits (v :: rest)
  | [u] => [if u.isValidChar then Char.ofNat u else illegal]

/-- The units of two bytes, whose greater part comes first or last. -/
def pairs (greaterFirst : Bool) : List UInt8 → List Nat
  | a :: b :: rest =>
    let unit := if greaterFirst then 256 * a.toNat + b.toNat else 256 * b.toNat + a.toNat
    unit :: pairs greaterFirst rest
  | _ => []

/-- The characters of bytes that are units of two each. -/
def ofBytes (greaterFirst : Bool) (bytes : List UInt8) : Units :=
  ⟨ofUnits (pairs greaterFirst bytes), bytes.length % 2 == 1⟩

/-- The bytes of characters. -/
def bytesOf (s : List Char) : List UInt8 := (String.ofList s).toUTF8.toList

/-- The characters that a document is read as. -/
def ofDocument (document : List Char) : Units :=
  match document with
  | '\x00' :: _ :: _ => ofBytes true (bytesOf document)
  | _ :: '\x00' :: _ =>
    if (document.head?.any fun c => c.toNat < 0x80) then ofBytes false (bytesOf document)
    else ⟨document, false⟩
  | _ => ⟨document, false⟩

/-- What is read of units; a byte that is left over is the start of something. -/
def finish {α : Type} (units : Units) (x : Except Malformed α) : Except Malformed α :=
  if !units.hasTail then x
  else
    match x with
    | .ok _ => failAt .unclosedToken []
    | .error e => if e == ⟨.noElement, some []⟩ then failAt .unclosedToken [] else .error e

end Units

end ModuleAudit.Markup
