import ModuleAudit.Fault
import ModuleAudit.Number.Arithmetic
import ModuleAudit.Number.Reading
import ModuleAudit.Text.Lower
import ModuleAudit.Value.Whole

/-!
# Numbers of YAML

The numbers that scalars spell: whole numbers to several bases, fractional ones, and those to the
base of sixty, whose places are divided by colons. Underscores count for nothing.
-/

namespace ModuleAudit.Yaml

open ModuleAudit.Text (quote)

/-- A number's sign and what follows it. A number has to have a first character. -/
def signed (s : List Char) : Except Fault (Bool × List Char) :=
  match s with
  | [] => .error (.outOfRange "string index out of range")
  | c :: rest => .ok (c == '-', if c == '-' || c == '+' then rest else s)

/-- A whole number to a base other than ten. -/
def baseInt (base : Nat) (s : List Char) : Except Fault Int :=
  match Number.readBaseInt? base (String.ofList s) with
  | some n => .ok n
  | none => .error (.notNumber base (quote (String.ofList s)))

/-- A whole number to the base of ten. -/
def tenInt (s : List Char) : Except Fault Int :=
  Value.intOfText (String.ofList s) (quote (String.ofList s))

/-- The whole number whose places to the base of sixty are given. -/
def ofSixties (places : List Int) : Int := places.foldl (fun n d => 60 * n + d) 0

/-- The whole number without a sign that a text spells. -/
def unsignedInt (s : List Char) : Except Fault Int :=
  if s == ['0'] then .ok 0
  else if ['0', 'b'].isPrefixOf s then baseInt 2 (s.drop 2)
  else if ['0', 'x'].isPrefixOf s then baseInt 16 (s.drop 2)
  else
    match s with
    | [] => .error (.outOfRange "string index out of range")
    | '0' :: _ => baseInt 8 s
    | _ =>
      if s.contains ':' then return ofSixties (← (Path.splitAt ':' s).mapM tenInt)
      else tenInt s

/-- The whole number of a scalar. -/
def wholeNumber (s : String) : Except Fault Int := do
  let (negative, body) ← signed (s.toList.filter (· != '_'))
  let n ← unsignedInt body
  return if negative then -n else n

/-- The fractional number that a text spells. -/
def realOf (s : List Char) : Except Fault Binary64 :=
  match Number.readReal? (String.ofList s) with
  | some x => .ok x
  | none => .error (.badValue ("could not convert string to float: " ++ quote (String.ofList s)))

/-- The sum of the places of a number to the base of sixty, the last one first; the first of them
counts `base`. What a place counts has to be a double-precision number. -/
def sumSixties (base : Nat) (sum : Binary64) : List Binary64 → Except Fault Binary64
  | [] => .ok sum
  | x :: rest =>
    match Binary64.ofInt base with
    | .infinite _ => .error .fractionOverflow
    | count => sumSixties (60 * base) (sum.add (x.mul count)) rest

/-- The fractional number without a sign that a text in small letters spells. -/
def unsignedReal (s : List Char) : Except Fault Binary64 := do
  if s == ".inf".toList then return .infinite false
  else if s.contains ':' then
    sumSixties 1 (.zero false) (← (Path.splitAt ':' s).mapM realOf).reverse
  else realOf s

/-- The sign of a fractional number, and the characters that count after it. -/
def realParts (s : String) : Except Fault (Bool × List Char) :=
  signed (Text.lower (s.toList.filter (· != '_')))

/-- The word for what is not a number, in small letters. -/
def nanWord : List Char := ".nan".toList

/-- The fractional number of a scalar. -/
def fractionalNumber (s : String) : Except Fault Binary64 := do
  let (negative, body) ← realParts s
  if body == nanWord then return .nan
  else
    let x ← unsignedReal body
    return if negative then x.neg else x

/-- Whether a scalar is the word for what is not a number. -/
def isNanWord (s : String) : Bool :=
  match realParts s with
  | .ok (_, body) => body == nanWord
  | .error _ => false

end ModuleAudit.Yaml
