import ModuleAudit.Number.Binary64

/-!
# Decimal digits of a number

`Digits` is a decimal number `0.d₁d₂… · 10 ^ point`. A double-precision number has three of
interest: the shortest that reads back as the number (`shortest`), the nearest with a given count of
digits (`toSignificant`) and the nearest with a given count of places (`toPlaces`). All are computed
from the exact value.
-/

namespace ModuleAudit

/-- The decimal number `0.d₁d₂… · 10 ^ point`. -/
structure Digits where
  digits : List Char
  point : Int
  deriving DecidableEq, Repr

namespace Digits

/-- The digits of the whole number `n`, read as `n · 10 ^ scale`. -/
def ofNat (n : Nat) (scale : Int) : Digits :=
  let ds := Nat.toDigits 10 n
  ⟨ds, ds.length + scale⟩

/-- The same number without zeros at the end; zero keeps one digit. -/
def trimZeros (x : Digits) : Digits :=
  match (x.digits.reverse.dropWhile (· == '0')).reverse with
  | [] => ⟨['0'], x.point⟩
  | ds => ⟨ds, x.point⟩

/-- The least `k` with `num / den < 10 ^ k`, for a positive ratio. -/
def magnitude (num den : Nat) : Int :=
  let guess : Int := ((num.log2 : Int) - (den.log2 : Int)) * 30103 / 100000
  let below (k : Int) : Bool :=
    let (n, d) := Binary64.scaleDown 10 num den k
    n < d
  ([guess - 1, guess, guess + 1, guess + 2].find? below).getD (guess + 3)

/-- The point of the `count`-digit grid nearest to `num / den` among those strictly between `lo /
den` and `hi / den` (or on the ends too, when `closed` is set). -/
def onGrid? (num den lo hi : Nat) (closed : Bool) (power : Int) (count : Nat) : Option Digits :=
  let scale := power - count
  let (n, d) := Binary64.scaleDown 10 num den scale
  let (l, _) := Binary64.scaleDown 10 lo den scale
  let (h, _) := Binary64.scaleDown 10 hi den scale
  let inside (k : Nat) : Bool := if closed then l ≤ k * d && k * d ≤ h else l < k * d && k * d < h
  let floor := n / d
  let nearest := Binary64.roundHalfEven n d
  if inside nearest then some (trimZeros (ofNat nearest scale))
  else if inside floor then some (trimZeros (ofNat floor scale))
  else if inside (floor + 1) then some (trimZeros (ofNat (floor + 1) scale))
  else none

/-- The fewest digits that read back as the finite number `m · 2 ^ e`, and of those the nearest. -/
def shortest (m : Nat) (e : Int) : Digits :=
  if m == 0 then ⟨['0'], 1⟩
  else
    let (num, den) := Binary64.ratio (4 * m) (e - 2)
    let unit := num / (4 * m)
    let below := if m == Nat.pow 2 52 && e > Binary64.leastExponent then unit else 2 * unit
    let power := magnitude num den
    ((List.range 17).findSome? fun k =>
      onGrid? num den (num - below) (num + 2 * unit) (m % 2 == 0) power (k + 1)).getD (ofNat m 0)

/-- More digits than a double-precision number has. -/
def mostDigits : Nat := 800

/-- The same number with zeros at the end, up to a count of digits. -/
def padTo (count : Nat) (x : Digits) : Digits :=
  { x with digits := x.digits ++ List.replicate (count - x.digits.length) '0' }

/-- The nearest number with `count` digits (at least one); a tie goes to the even digit. -/
def toSignificant (m : Nat) (e : Int) (count : Nat) : Digits :=
  padTo count (nearest (min (max count 1) mostDigits))
where
  /-- The nearest number with a count of digits. -/
  nearest (count : Nat) : Digits :=
    if m == 0 then ⟨List.replicate count '0', 1⟩
    else
      let (num, den) := Binary64.ratio m e
      let power := magnitude num den
      let (n, d) := Binary64.scaleDown 10 num den (power - count)
      let k := Binary64.roundHalfEven n d
      if k == Nat.pow 10 count then ofNat (Nat.pow 10 (count - 1)) (power - count + 1)
      else ofNat k (power - count)

/-- The nearest number with `places` digits after the point, as the whole number of its last units;
a tie goes to the even digit. -/
def toPlaces (m : Nat) (e : Int) (places : Nat) : Nat :=
  let (num, den) := Binary64.ratio m e
  Binary64.roundHalfEven (num * Nat.pow 10 places) den

end Digits

end ModuleAudit
