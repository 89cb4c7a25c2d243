import ModuleAudit.Number.Binary64
import ModuleAudit.Text.Blank
import ModuleAudit.Text.Digit

/-!
# Reading numbers

Whole and fractional numbers as people type them: blanks around, a sign, digits of any script, and
single underscores between digits. `readInt?` reads a whole number, `readReal?` a fractional one,
the names of infinity and of what is not a number included.
-/

namespace ModuleAudit.Number

open ModuleAudit.Text

/-- A blank that may stand around a number: every blank but the information separators. -/
def isMargin (c : Char) : Bool := isBlank c && !(0x1c ≤ c.toNat && c.toNat ≤ 0x1f)

/-- The text without the blanks around it. -/
def trimMargin (s : List Char) : List Char :=
  ((s.dropWhile isMargin).reverse.dropWhile isMargin).reverse

/-- The sign in front of a number, with what follows it. -/
def readSign : List Char → Bool × List Char
  | '-' :: rest => (true, rest)
  | '+' :: rest => (false, rest)
  | s => (false, s)

/-- Reads digits of which some have been read (`seen`) with the value `acc` and in the number
`count`; an underscore must stand between two digits. Gives the value, the count and what follows. -/
def readDigitsAfter (seen : Bool) (acc count : Nat) : List Char → Option (Nat × Nat × List Char)
  | [] => some (acc, count, [])
  | '_' :: c :: rest =>
    match seen, digitValue? c with
    | true, some d => readDigitsAfter true (acc * 10 + d) (count + 1) rest
    | _, _ => none
  | c :: rest =>
    if c == '_' then none
    else
      match digitValue? c with
      | some d => readDigitsAfter true (acc * 10 + d) (count + 1) rest
      | none => some (acc, count, c :: rest)

/-- The digits at the front of a text: their value, how many there are, and what follows. -/
def readDigits (s : List Char) : Option (Nat × Nat × List Char) := readDigitsAfter false 0 0 s

/-- A whole number with blanks around it. -/
def readInt? (s : String) : Option Int :=
  let (negative, body) := readSign (trimMargin s.toList)
  match readDigits body with
  | some (n, count, []) => if count == 0 then none else some (if negative then -(n : Int) else n)
  | _ => none

/-- The value of a digit to a base of up to sixteen. -/
def baseDigit? (base : Nat) (c : Char) : Option Nat :=
  let letter :=
    if c.isAlpha && c.toLower ≤ 'f' then some (c.toLower.toNat - 'a'.toNat + 10) else none
  ((digitValue? c).or letter).filter
    (· < base)

/-- Digits to a base, of which there is one at least. -/
def readBaseDigits? (base : Nat) (s : List Char) : Option Nat :=
  if s.isEmpty then none
  else s.foldl (fun n c => return base * (← n) + (← baseDigit? base c)) (some 0)

/-- What follows the mark of a base, a zero and a letter, if it stands at the front. -/
def dropBaseMark (base : Nat) (s : List Char) : List Char :=
  match s, [(2, 'b'), (8, 'o'), (16, 'x')].lookup base with
  | '0' :: c :: rest, some mark => if c.toLower == mark then rest else s
  | _, _ => s

/-- A whole number to a base other than ten, with blanks around it. Its base may be marked in
front. -/
def readBaseInt? (base : Nat) (s : String) : Option Int :=
  let (negative, body) := readSign (trimMargin s.toList)
  (readBaseDigits? base (dropBaseMark base body)).map fun n => if negative then -(n : Int) else n

/-- The exponent of a number, if the text is nothing else. -/
def readExponent? : List Char → Option Int
  | [] => some 0
  | c :: rest =>
    if c == 'e' || c == 'E' then
      let (negative, body) := readSign rest
      match readDigits body with
      | some (n, count, []) =>
        if count == 0 then none else some (if negative then -(n : Int) else n)
      | _ => none
    else none

/-- A number without a sign: its mantissa and its power of ten. -/
def readMagnitude? (s : List Char) : Option (Nat × Int) :=
  match readDigits s with
  | some (whole, wholeCount, '.' :: rest) =>
    match readDigits rest with
    | some (fraction, count, rest) =>
      if wholeCount + count == 0 then none
      else (readExponent? rest).map fun e => (whole * Nat.pow 10 count + fraction, e - count)
    | none => none
  | some (whole, count, rest) =>
    if count == 0 then none else (readExponent? rest).map fun e => (whole, e)
  | none => none

/-- A fractional number with blanks around it. -/
def readReal? (s : String) : Option Binary64 :=
  let (negative, body) := readSign (trimMargin s.toList)
  match String.ofList (body.map Char.toLower) with
  | "inf" | "infinity" => some (.infinite negative)
  | "nan" => some .nan
  | _ => (readMagnitude? body).map fun (m, e) => .ofDecimal negative m e

end ModuleAudit.Number
