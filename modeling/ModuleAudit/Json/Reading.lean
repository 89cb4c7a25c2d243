import ModuleAudit.Json.Basic

/-!
# Reading JSON

`Json.parse?` reads a document with blanks around its parts. A number with a fraction or an exponent
is a double-precision number, any other a whole number; the names of infinity and of what is not a
number are known. Two escaped halves of a character are put together.
-/

namespace ModuleAudit.Json

/-- A blank between the parts of a document. -/
def isGap (c : Char) : Bool := c == ' ' || c == '\n' || c == '\r' || c == '\t'

/-- The text without the blanks at its front. -/
def skipGap (s : List Char) : List Char := s.dropWhile isGap

/-- The value of a hexadecimal digit. -/
def hexValue? (c : Char) : Option Nat :=
  if '0' ≤ c && c ≤ '9' then some (c.toNat - '0'.toNat)
  else if 'a' ≤ c && c ≤ 'f' then some (c.toNat - 'a'.toNat + 10)
  else if 'A' ≤ c && c ≤ 'F' then some (c.toNat - 'A'.toNat + 10)
  else none

/-- The unit of 16 bits that four hexadecimal digits spell. -/
def unit? (a b c d : Char) : Option Nat := do
  return (((← hexValue? a) * 16 + (← hexValue? b)) * 16 + (← hexValue? c)) * 16 + (← hexValue? d)

/-- The character behind a short escape. -/
def shortEscape? (c : Char) : Option Char :=
  match c with
  | '"' => some '"'
  | '\\' => some '\\'
  | '/' => some '/'
  | 'b' => some '\x08'
  | 'f' => some '\x0c'
  | 'n' => some '\n'
  | 'r' => some '\r'
  | 't' => some '\t'
  | _ => none

/-- The rest of a string after its opening quote, and what follows its closing quote. `high` is the
first half of a character whose second half is still to come. -/
def readStringAfter (high : Option Nat) : List Char → Option (List Char × List Char)
  | '"' :: rest => if high.isSome then none else some ([], rest)
  | '\\' :: 'u' :: a :: b :: c :: d :: rest =>
    match unit? a b c d, high with
    | some low, some h =>
      if 0xdc00 ≤ low && low < 0xe000 then
        (readStringAfter none rest).map fun (s, r) =>
          (Char.ofNat (0x10000 + (h - 0xd800) * 0x400 + (low - 0xdc00)) :: s, r)
      else none
    | some n, none =>
      if 0xd800 ≤ n && n < 0xdc00 then readStringAfter (some n) rest
      else if 0xdc00 ≤ n && n < 0xe000 then none
      else (readStringAfter none rest).map fun (s, r) => (Char.ofNat n :: s, r)
    | none, _ => none
  | '\\' :: e :: rest =>
    match shortEscape? e, high with
    | some c, none => (readStringAfter none rest).map fun (s, r) => (c :: s, r)
    | _, _ => none
  | c :: rest =>
    if c == '\\' || c.toNat < 0x20 || high.isSome then none
    else (readStringAfter none rest).map fun (s, r) => (c :: s, r)
  | [] => none

/-- The rest of a string after its opening quote, and what follows its closing quote. -/
def readString? (s : List Char) : Option (String × List Char) :=
  (readStringAfter none s).map fun (cs, rest) => (String.ofList cs, rest)

/-- The value of decimal digits. -/
def digitsValue (ds : List Char) : Nat := ds.foldl (fun n c => n * 10 + (c.toNat - '0'.toNat)) 0

/-- The exponent at the front of a text, which may be absent, and what follows. -/
def readExponent (s : List Char) : Option Int × List Char :=
  match s with
  | e :: rest =>
    if e == 'e' || e == 'E' then
      let (negative, body) := match rest with
        | '-' :: r => (true, r)
        | '+' :: r => (false, r)
        | r => (false, r)
      let ds := body.takeWhile Char.isDigit
      if ds.isEmpty then (none, s)
      else
        let n : Int := digitsValue ds
        (some (if negative then -n else n), body.drop ds.length)
    else (none, s)
  | [] => (none, [])

/-- The fraction at the front of a text, which may be absent, and what follows. -/
def readFraction (s : List Char) : List Char × List Char :=
  match s with
  | '.' :: rest =>
    let ds := rest.takeWhile Char.isDigit
    if ds.isEmpty then ([], s) else (ds, rest.drop ds.length)
  | _ => ([], s)

/-- A number of a given sign at the front of a text, and what follows. -/
def readMagnitude? (negative : Bool) (s : List Char) : Option (Json × List Char) :=
  let whole := s.takeWhile Char.isDigit
  if whole.isEmpty || (whole.length > 1 && whole.head? == some '0') then none
  else
    let (fraction, rest) := readFraction (s.drop whole.length)
    match fraction, readExponent rest with
    | [], (none, rest) =>
      let n : Int := digitsValue whole
      some (int (if negative then -n else n), rest)
    | fraction, (e, rest) =>
      let scale : Int := e.getD 0 - fraction.length
      some (real (.ofDecimal negative (digitsValue (whole ++ fraction)) scale), rest)

/-- The names of documents that have one. -/
def names : List (List Char × Json) := [
  ("null".toList, null), ("true".toList, bool true), ("false".toList, bool false),
  ("NaN".toList, real .nan), ("Infinity".toList, real (.infinite false)),
  ("-Infinity".toList, real (.infinite true))]

/-- A document without parts at the front of a text, and what follows. -/
def readAtom? (s : List Char) : Option (Json × List Char) :=
  match names.find? fun (name, _) => name.isPrefixOf s with
  | some (name, j) => some (j, s.drop name.length)
  | none =>
    match s with
    | '"' :: rest => (readString? rest).map fun (t, r) => (string t, r)
    | '-' :: rest => readMagnitude? true rest
    | _ => readMagnitude? false s

mutual

/-- A document at the front of a text, and what follows; documents nest at most `fuel` deep. -/
def readAt? (fuel : Nat) (s : List Char) : Option (Json × List Char) :=
  match fuel, skipGap s with
  | 0, _ => none
  | fuel + 1, '[' :: rest =>
    match skipGap rest with
    | ']' :: rest => some (array [], rest)
    | _ => (readItems? fuel rest).map fun (xs, rest) => (array xs, rest)
  | fuel + 1, '\x7b' :: rest =>
    match skipGap rest with
    | '\x7d' :: rest => some (object [], rest)
    | _ => (readMembers? fuel rest).map fun (ms, rest) => (object ms, rest)
  | _ + 1, s => readAtom? s

/-- One item or more up to the closing bracket. -/
def readItems? (fuel : Nat) (s : List Char) : Option (List Json × List Char) :=
  match fuel with
  | 0 => none
  | fuel + 1 =>
    match readAt? fuel s with
    | none => none
    | some (x, rest) =>
      match skipGap rest with
      | ',' :: rest => (readItems? fuel rest).map fun (xs, rest) => (x :: xs, rest)
      | ']' :: rest => some ([x], rest)
      | _ => none

/-- One member or more up to the closing brace. -/
def readMembers? (fuel : Nat) (s : List Char) : Option (List (String × Json) × List Char) :=
  match fuel, skipGap s with
  | fuel + 1, '"' :: rest =>
    match readString? rest with
    | none => none
    | some (k, rest) =>
      match skipGap rest with
      | ':' :: rest =>
        match readAt? fuel rest with
        | none => none
        | some (x, rest) =>
          match skipGap rest with
          | ',' :: rest => (readMembers? fuel rest).map fun (ms, rest) => ((k, x) :: ms, rest)
          | '\x7d' :: rest => some ([(k, x)], rest)
          | _ => none
      | _ => none
  | _, _ => none

end

/-- The document that a text spells. -/
def parse? (s : String) : Option Json :=
  let cs := s.toList
  match readAt? (cs.length + 1) cs with
  | some (j, rest) => if (skipGap rest).isEmpty then some j else none
  | none => none

end ModuleAudit.Json
