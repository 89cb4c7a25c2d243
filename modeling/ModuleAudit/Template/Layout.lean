import ModuleAudit.Number.Text
import ModuleAudit.Template.Subject
import ModuleAudit.Text.Digit

/-!
# Layouts of template fields

A layout says how a value is written: fill and alignment, sign, alternate form, width, separators,
precision and a letter for the kind of notation. `FieldLayout.parse` reads it, `FieldLayout.apply`
writes a value in it. Strings take a width and a precision, numbers everything else.
-/

namespace ModuleAudit.Template

open ModuleAudit.Text (digitValue? hexDigits)

/-- How a field is written. -/
structure FieldLayout where
  fill : Char := ' '
  align : Option Char := none
  sign : Option Char := none
  noNegativeZero : Bool := false
  alternate : Bool := false
  width : Nat := 0
  separator : Option Char := none
  precision : Option Nat := none
  letter : Option Char := none
  deriving DecidableEq, Repr

namespace FieldLayout

/-- A character that says where a value stands in its width. -/
def isAlign (c : Char) : Bool := c == '<' || c == '>' || c == '=' || c == '^'

/-- The largest number in a layout. -/
def largest : Nat := Nat.pow 2 63 - 1

/-- The number at the front of a layout, if there is one, and what follows. -/
def readNumber (s : List Char) : Except Fault (Option Nat × List Char) :=
  let isDigit (c : Char) : Bool := (digitValue? c).isSome
  let digits := s.takeWhile isDigit
  let n := digits.foldl (fun n c => n * 10 + (digitValue? c).getD 0) 0
  if n > largest then .error (.badValue "Too many decimal digits in format string")
  else .ok (if digits.isEmpty then none else some n, s.drop digits.length)

/-- A character in a message: itself if its code lies between that of the space and a limit, or its
code. -/
def visible (limit : Nat) (c : Char) : String :=
  if 0x20 < c.toNat && c.toNat < limit then c.toString
  else "\\x" ++ String.ofList ((Nat.toDigits 16 c.toNat))

/-- Reads the fill and the alignment. -/
def readAlign (l : FieldLayout) : List Char → FieldLayout × List Char × Bool
  | f :: a :: rest =>
    if isAlign a then ({ l with fill := f, align := some a }, rest, true)
    else if isAlign f then ({ l with align := some f }, a :: rest, false)
    else (l, f :: a :: rest, false)
  | [a] => if isAlign a then ({ l with align := some a }, [], false) else (l, [a], false)
  | [] => (l, [], false)

/-- The text after a character, if it starts with one of a kind. -/
def take? (p : Char → Bool) : List Char → Option Char × List Char
  | c :: rest => if p c then (some c, rest) else (none, c :: rest)
  | [] => (none, [])

/-- The complaint that a separator does not go with a letter. -/
def separatorClash (separator letter : Char) : Fault :=
  .badValue s!"Cannot specify '{separator}' with '{visible 0x80 letter}'."

/-- Reads the separators, of which there may be one. -/
def readSeparator (l : FieldLayout) (s : List Char) : Except Fault (FieldLayout × List Char) :=
  let both : Fault := .badValue "Cannot specify both ',' and '_'."
  match s with
  | ',' :: '_' :: _ => .error both
  | '_' :: ',' :: _ => .error both
  | ',' :: rest => .ok ({ l with separator := some ',' }, rest)
  | '_' :: rest => .ok ({ l with separator := some '_' }, rest)
  | rest => .ok (l, rest)

/-- Reads the precision. -/
def readPrecision (l : FieldLayout) (s : List Char) : Except Fault (FieldLayout × List Char) :=
  match s with
  | '.' :: rest => do
    match ← readNumber rest with
    | (some n, rest) => return ({ l with precision := some n }, rest)
    | (none, _) => .error (.badValue "Format specifier missing precision")
  | rest => .ok (l, rest)

/-- Checks that the separator goes with the letter. Strings are written with `s` if no letter is
given. -/
def checkSeparator (isText : Bool) (l : FieldLayout) : Except Fault FieldLayout :=
  match l.separator with
  | none => .ok l
  | some separator =>
    match l.letter with
    | none => if isText then .error (separatorClash separator 's') else .ok l
    | some c =>
      if "defgEG%F".toList.contains c || ("boxX".toList.contains c && separator == '_') then .ok l
      else .error (separatorClash separator c)

/-- Reads a layout for a value of a kind; numbers fill a width from the left with zeros if a zero
comes first. -/
def parse (kind : String) (isText : Bool) (written : List Char) : Except Fault FieldLayout := do
  let (l, s, filled) := readAlign {} written
  let (sign, s) := take? (fun c => c == ' ' || c == '+' || c == '-') s
  let (zero, s) := take? (· == 'z') s
  let (alternate, s) := take? (· == '#') s
  let l := { l with sign, noNegativeZero := zero.isSome, alternate := alternate.isSome }
  let (l, s) :=
    match filled, s with
    | false, '0' :: rest =>
      ({ l with fill := '0', align := l.align.or (if isText then none else some '=') }, rest)
    | _, s => (l, s)
  let (width, s) ← readNumber s
  let (l, s) ← readSeparator { l with width := width.getD 0 } s
  let (l, s) ← readPrecision l s
  match s with
  | [] => checkSeparator isText l
  | [c] => checkSeparator isText { l with letter := some c }
  | _ =>
    .error (.badValue ("Invalid format specifier '" ++ String.ofList written ++
      "' for object of type '" ++ kind ++ "'"))

/-- The complaint about a letter that means nothing for a kind of value. -/
def unknownLetter (kind : String) (c : Char) : Fault :=
  .badValue s!"Unknown format code '{visible 0x80 c}' for object of type '{kind}'"

/-! ## Text -/

/-- A text in a width, aligned to a side or to the middle. -/
def pad (l : FieldLayout) (default : Char) (s : List Char) : List Char :=
  let room := l.width - s.length
  let left := match l.align.getD default with
    | '>' => room
    | '^' => room / 2
    | _ => 0
  List.replicate left l.fill ++ s ++ List.replicate (room - left) l.fill

/-- A string in a layout. -/
def applyText (l : FieldLayout) (s : List Char) : Except Fault (List Char) :=
  match l.letter with
  | some c => if c == 's' then write else .error (unknownLetter "str" c)
  | none => write
where
  write :=
    let refuse (what : String) : Except Fault (List Char) :=
      .error (.badValue (what ++ " not allowed in string format specifier"))
    if l.sign == some ' ' then refuse "Space"
    else if l.sign.isSome then refuse "Sign"
    else if l.noNegativeZero then refuse "Negative zero coercion (z)"
    else if l.alternate then refuse "Alternate form (#)"
    else if l.align == some '=' then refuse "'=' alignment"
    else .ok (pad l '<' (match l.precision with
      | some n => s.take n
      | none => s))

/-! ## Numbers -/

/-- Digits in groups of a size with a separator between them. -/
def group (size : Nat) (separator : Char) (digits : List Char) : List Char :=
  let rec go : Nat → List Char → List Char
    | _, [] => []
    | n, c :: rest =>
      if n != 0 && n % size == 0 then separator :: c :: go (n + 1) rest else c :: go (n + 1) rest
  (go 0 digits.reverse).reverse

/-- How many digits in groups fill a width, if there are some already; at most `fuel` more. -/
def digitsToFill (size width : Nat) : (fuel : Nat) → (count : Nat) → Nat
  | 0, count => count
  | fuel + 1, count =>
    if count + (count - 1) / size < width then digitsToFill size width fuel (count + 1) else count

/-- Digits in groups, with zeros in front until they fill a width. -/
def groupTo (size : Nat) (separator : Char) (width : Nat) (digits : List Char) : List Char :=
  let count := digitsToFill size width width digits.length
  group size separator (List.replicate (count - digits.length) '0' ++ digits)

/-- A number in a layout, given by its sign, what stands between sign and digits, the digits before
the point and everything after them. -/
def applyParts (l : FieldLayout) (negative : Bool) (mark digits rest : List Char) : List Char :=
  let sign : List Char :=
    if negative then ['-']
    else match l.sign with
      | some '+' => ['+']
      | some ' ' => [' ']
      | _ => []
  let size := if (l.letter.any "boxX".toList.contains) then 4 else 3
  let grouped (width : Nat) : List Char :=
    match l.separator with
    | some separator => groupTo size separator width digits
    | none => List.replicate (width - digits.length) '0' ++ digits
  let front := sign ++ mark
  if l.align == some '=' then
    let room := l.width - front.length - rest.length
    if l.fill == '0' && !digits.isEmpty then front ++ grouped room ++ rest
    else
      let body := grouped 0
      front ++ List.replicate (room - body.length) l.fill ++ body ++ rest
  else pad l '>' (front ++ grouped 0 ++ rest)

/-- The digits of a whole number in a base. -/
def baseDigits (base n : Nat) : List Char := Nat.toDigits base n

/-- The point and the digits after it; `always` keeps the point. -/
def fraction (always : Bool) (digits : List Char) : List Char :=
  if digits.isEmpty then (if always then ['.'] else []) else '.' :: digits

/-- A positive number with places after the point. Beyond the places that the number itself has
there are zeros. -/
def fixed (alternate : Bool) (places m : Nat) (e : Int) : List Char × List Char :=
  let own := min places (-e).toNat
  let ds := baseDigits 10 (Digits.toPlaces m e own)
  let ds := List.replicate (own + 1 - ds.length) '0' ++ ds
  let after := ds.drop (ds.length - own) ++ List.replicate (places - own) '0'
  (ds.take (ds.length - own), fraction alternate after)

/-- A positive number with an exponent. -/
def scientific (alternate : Bool) (x : Digits) : List Char × List Char :=
  let exponent := if x.digits.all (· == '0') then 0 else x.point - 1
  (x.digits.take 1, fraction alternate (x.digits.drop 1) ++ Digits.exponentText 'e' exponent)

/-- A positive number without an exponent. -/
def positional (alternate markWhole : Bool) (x : Digits) : List Char × List Char :=
  if x.point ≤ 0 then
    (['0'], '.' :: List.replicate (-x.point).toNat '0' ++ x.digits)
  else
    let whole := x.point.toNat
    let ds := x.digits ++ List.replicate (whole - x.digits.length) '0'
    let after := ds.drop whole
    (ds.take whole, if after.isEmpty && markWhole then ['.', '0'] else fraction alternate after)

/-- A positive number with a count of significant digits; with an exponent if it is very small or
has more digits before the point. -/
def general (alternate markWhole : Bool) (count m : Nat) (e : Int) : List Char × List Char :=
  let count := max count 1
  let full := Digits.toSignificant m e count
  let x := if alternate then full else full.trimZeros
  if x.point ≤ -4 || x.point > count - (if markWhole then 1 else 0) then scientific alternate x
  else positional alternate markWhole x

/-- A positive number that reads back. -/
def exact (alternate : Bool) (m : Nat) (e : Int) : List Char × List Char :=
  let x := Digits.shortest m e
  if x.point ≤ -4 || x.point > 16 then scientific alternate x else positional alternate true x

/-- The digits before the point, and the rest, of a positive number in the notation of a letter. -/
def notationParts (l : FieldLayout) (letter : Option Char) (m : Nat) (e : Int) :
    List Char × List Char :=
  match letter with
  | some 'f' | some '%' => fixed l.alternate (l.precision.getD 6) m e
  | some 'e' => scientific l.alternate (Digits.toSignificant m e (l.precision.getD 6 + 1))
  | some _ => general l.alternate false (l.precision.getD 6) m e
  | none =>
    match l.precision with
    | none => exact l.alternate m e
    | some n => general l.alternate true n m e

/-- Whether digits show nothing but zero. -/
def showsZero (parts : List Char × List Char) : Bool :=
  parts.1.all (· == '0') && (parts.2.takeWhile (· != 'e')).all fun c => c == '0' || c == '.' || c == '%'

/-- A number times one hundred. -/
def percent : Binary64 → Binary64
  | .finite negative m e =>
    let (n, d) := Binary64.ratio m e
    .ofRatio negative (n * 100) d
  | x => x

/-- A double-precision number in a layout. -/
def applyReal (l : FieldLayout) (x : Binary64) : List Char :=
  write (l.letter.getD ' ')
where
  write (c : Char) : List Char :=
    let tail : List Char := if c == '%' then ['%'] else []
    let x := if c == '%' then percent x else x
    let capital (s : List Char) : List Char := if c.isUpper then s.map Char.toUpper else s
    match x with
    | .nan => applyParts l false [] [] (capital "nan".toList ++ tail)
    | .infinite negative => applyParts l negative [] [] (capital "inf".toList ++ tail)
    | .finite negative m e =>
      let parts := notationParts l (if c == ' ' then none else some c.toLower) m e
      let negative := negative && !(l.noNegativeZero && showsZero parts)
      applyParts l negative [] parts.1 (capital parts.2 ++ tail)

/-- The largest precision of a fractional number. -/
def mostPrecise : Nat := Nat.pow 2 31 - 1

/-- A double-precision number in a layout, if the precision is not too large. -/
def applyFraction (kind : String) (l : FieldLayout) (x : Binary64) : Except Fault (List Char) :=
  match l.letter with
  | some c =>
    if !"eEfFgGn%".toList.contains c then .error (unknownLetter kind c) else bounded
  | none => bounded
where
  bounded : Except Fault (List Char) :=
    if l.precision.any (· > mostPrecise) then .error (.badValue "precision too big")
    else .ok (applyReal l x)

/-- The double-precision number that is the nearest to a whole number. -/
def nearest (n : Int) : Except Fault Binary64 :=
  match Binary64.ofInt n with
  | .infinite _ => .error .fractionOverflow
  | x => .ok x

/-- Whether a whole number fits into a long word. -/
def fitsLong (n : Int) : Bool := -Nat.pow 2 63 ≤ n && n < Nat.pow 2 63

/-- A whole number in a layout. -/
def applyInt (kind : String) (l : FieldLayout) (n : Int) : Except Fault (List Char) :=
  let letter := l.letter.getD 'd'
  if "eEfFgG%".toList.contains letter then do applyFraction kind l (← nearest n)
  else if !"bcdnoxX".toList.contains letter then .error (unknownLetter kind letter)
  else if l.precision.isSome then
    .error (.badValue "Precision not allowed in integer format specifier")
  else if l.noNegativeZero then
    .error (.badValue "Negative zero coercion (z) not allowed in integer format specifier")
  else if letter == 'c' then
    if l.sign.isSome then .error (.badValue "Sign not allowed with integer format specifier 'c'")
    else if l.alternate then
      .error (.badValue "Alternate form (#) not allowed with integer format specifier 'c'")
    else if !fitsLong n then .error .longOverflow
    else if 0 ≤ n && n < 0x110000 then .ok (applyParts l false [] [] [Char.ofNat n.toNat])
    else .error (.reported "OverflowError" "%c arg not in range(0x110000)")
  else
    let base := match letter with
      | 'b' => 2
      | 'o' => 8
      | 'x' | 'X' => 16
      | _ => 10
    let mark : List Char := if l.alternate && base != 10 then ['0', letter] else []
    let digits := baseDigits base n.natAbs
    .ok (applyParts l (n < 0) mark (if letter == 'X' then digits.map Char.toUpper else digits) [])

/-- A subject in the layout that is written after the colon of a field. -/
def apply (written : List Char) (s : Subject) : Except Fault (List Char) := do
  let kind := s.kindOf.name
  match s with
  | .value (.text t) =>
    if written.isEmpty then return t.toList else applyText (← parse kind true written) t.toList
  | s =>
    if written.isEmpty then return (← s.plain).toList
    else
      match s with
      | .value (.int n) => applyInt kind (← parse kind false written) n
      | .value (.bool b) => applyInt kind (← parse kind false written) (Value.boolInt b)
      | .value (.real x) => applyFraction kind (← parse kind false written) x
      | .value (.nan _) => applyFraction kind (← parse kind false written) .nan
      | _ => .error (.wrongKind s!"unsupported format string passed to {kind}.__format__")

end FieldLayout

end ModuleAudit.Template
