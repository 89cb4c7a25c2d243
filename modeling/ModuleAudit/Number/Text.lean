import ModuleAudit.Number.Digits

/-!
# Numbers as text

`Layout` holds what a written number looks like; `Layout.exact` is the one that reads back as the
same number, `Layout.general` the one with six significant digits that seconds are shown in.
-/

namespace ModuleAudit

/-- The choices of a written number. -/
structure Layout where
  /-- The powers `point` that are written without an exponent, as least and greatest. -/
  positional : Int × Int
  /-- Whether a whole number written without an exponent gets `.0`. -/
  markWhole : Bool
  /-- How many significant digits there are; `none` for as many as the number needs. -/
  significant : Option Nat

namespace Layout

/-- A number that reads back: an exponent below `0.0001` and from `10 ^ 16` on. -/
def exact : Layout := ⟨(-3, 16), true, none⟩

/-- Six significant digits: an exponent below `0.0001` and from a million on. -/
def general : Layout := ⟨(-3, 6), false, some 6⟩

end Layout

namespace Digits

/-- The number without an exponent. -/
def positional (x : Digits) (markWhole : Bool) : List Char :=
  if x.point ≤ 0 then '0' :: '.' :: List.replicate (-x.point).toNat '0' ++ x.digits
  else
    let whole := x.point.toNat
    if x.digits.length ≤ whole then
      x.digits ++ List.replicate (whole - x.digits.length) '0' ++ (if markWhole then ['.', '0'] else [])
    else x.digits.take whole ++ '.' :: x.digits.drop whole

/-- An exponent of at least two digits after the letter `mark`. -/
def exponentText (mark : Char) (e : Int) : List Char :=
  let ds := Nat.toDigits 10 e.natAbs
  mark :: (if e < 0 then '-' else '+') :: (if ds.length < 2 then '0' :: ds else ds)

/-- The number with one digit before the point and an exponent. -/
def scientific (x : Digits) (mark : Char) : List Char :=
  let rest := x.digits.drop 1
  x.digits.take 1 ++ (if rest.isEmpty then [] else '.' :: rest) ++ exponentText mark (x.point - 1)

end Digits

namespace Binary64

/-- The digits of a finite number that a layout shows. -/
def shownDigits (layout : Layout) (m : Nat) (e : Int) : Digits :=
  match layout.significant with
  | none => Digits.shortest m e
  | some count => (Digits.toSignificant m e count).trimZeros

/-- The number in a layout. -/
def text (layout : Layout) : Binary64 → String
  | nan => "nan"
  | infinite negative => if negative then "-inf" else "inf"
  | finite negative m e =>
    let x := shownDigits layout m e
    let body :=
      if layout.positional.1 ≤ x.point && x.point ≤ layout.positional.2 then
        x.positional layout.markWhole
      else x.scientific 'e'
    String.ofList (if negative then '-' :: body else body)

end Binary64

end ModuleAudit
