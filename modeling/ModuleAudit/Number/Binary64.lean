/-!
# Double-precision numbers

`Binary64` is a number of the 64-bit binary floating-point format as data: a sign, a whole mantissa
and a power of two. Finite numbers are kept with the exponent that the format stores, so two of them
are equal as values of this type exactly when their bits are equal.

* `Binary64.ofRatio` and `Binary64.ofDecimal` round to the nearest number, ties to the even
  mantissa;
* `Binary64.truncate?` cuts the fraction off;
* `Binary64.compareInt` compares with a whole number of any size, exactly.
-/

namespace ModuleAudit

/-- A double-precision number. The value of `finite negative m e` is `m · 2 ^ e`, negated when
`negative` is set. -/
inductive Binary64
  | nan
  | infinite (negative : Bool)
  | finite (negative : Bool) (mantissa : Nat) (exponent : Int)
  deriving DecidableEq, Repr, Inhabited

namespace Binary64

/-- The exponent of the numbers next to zero, and of zero itself. -/
def leastExponent : Int := -1074

/-- The exponent of the largest finite numbers. -/
def greatestExponent : Int := 971

/-- Zero. -/
def zero (negative : Bool) : Binary64 := finite negative 0 leastExponent

/-- The whole number nearest to a ratio; a tie goes to the even one. -/
def roundHalfEven (num den : Nat) : Nat :=
  let quotient := num / den
  let twice := 2 * (num % den)
  if twice > den || (twice == den && quotient % 2 == 1) then quotient + 1 else quotient

/-- The ratio `num / den` divided by `base ^ e`, as numerator and denominator. -/
def scaleDown (base num den : Nat) (e : Int) : Nat × Nat :=
  if 0 ≤ e then (num, den * Nat.pow base e.toNat) else (num * Nat.pow base (-e).toNat, den)

/-- The number nearest to a ratio; a tie goes to the even mantissa. -/
def ofRatio (negative : Bool) (num den : Nat) : Binary64 :=
  if num == 0 then zero negative
  else
    let guess : Int := (num.log2 : Int) - (den.log2 : Int) - 52
    let (n, d) := scaleDown 2 num den guess
    let e := max (if n < Nat.pow 2 52 * d then guess - 1 else guess) leastExponent
    let (n, d) := scaleDown 2 num den e
    let m := roundHalfEven n d
    let (m, e) := if m == Nat.pow 2 53 then (Nat.pow 2 52, e + 1) else (m, e)
    if e > greatestExponent then infinite negative else finite negative m e

/-- The number nearest to `mantissa · 10 ^ exponent`. Magnitudes far outside the format are decided
before any power is computed. -/
def ofDecimal (negative : Bool) (mantissa : Nat) (exponent : Int) : Binary64 :=
  let magnitude : Int := (Nat.toDigits 10 mantissa).length + exponent
  if mantissa == 0 || magnitude < -400 then zero negative
  else if magnitude > 400 then infinite negative
  else
    let (n, d) := scaleDown 10 mantissa 1 (-exponent)
    ofRatio negative n d

/-- The number nearest to a whole number. -/
def ofInt (n : Int) : Binary64 := ofRatio (n < 0) n.natAbs 1

/-- The absolute value of a finite number as a ratio. -/
def ratio (mantissa : Nat) (exponent : Int) : Nat × Nat := scaleDown 2 mantissa 1 (-exponent)

/-- The whole part of a finite number. -/
def truncate? : Binary64 → Option Int
  | finite negative m e =>
    let (n, d) := ratio m e
    let q : Int := (n / d : Nat)
    some (if negative then -q else q)
  | _ => none

/-- The value of a finite number as a signed ratio. -/
def signedRatio (negative : Bool) (m : Nat) (e : Int) : Int × Nat :=
  let (n, d) := ratio m e
  (if negative then -(n : Int) else n, d)

/-- How a number compares with a whole number; `none` when it is not a number. -/
def compareInt : Binary64 → Int → Option Ordering
  | nan, _ => none
  | infinite negative, _ => some (if negative then .lt else .gt)
  | finite negative m e, k =>
    let (n, d) := signedRatio negative m e
    some (compare n (k * d))

/-- Whether two numbers are the same value: zeros of both signs are, and nothing equals what is not
a number. -/
def same : Binary64 → Binary64 → Bool
  | finite s m e, finite s' m' e' =>
    let (n, d) := signedRatio s m e
    let (n', d') := signedRatio s' m' e'
    n * d' == n' * d
  | infinite s, infinite s' => s == s'
  | _, _ => false

/-- Whether a number is zero, of either sign. -/
def isZero : Binary64 → Bool
  | finite _ m _ => m == 0
  | _ => false

end Binary64

end ModuleAudit
