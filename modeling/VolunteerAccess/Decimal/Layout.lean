import VolunteerAccess.Decimal.Shortest

/-!
# Laying out decimal digits

Which digits stand for a number is settled by `Binary64.shortest`; this module
settles how they are set: where positional notation ends, whether a whole number
keeps a fraction, and which of two equally short and near decimals is taken.

- `DecimalStyle`: the decisions of one format.
- `Binary64.write`: the text of a finite number in a style.
- `Binary64.display`: the text of any number in settings, always positional.
-/

namespace VolunteerAccess

/-- The decisions of a format that writes decimal numbers. -/
structure DecimalStyle where
  /-- Positional notation is used for a point in the range `(lowest, highest]`. -/
  positional : Option (Int × Int)
  /-- Whether a whole number is given the fraction `.0`. -/
  wholeFraction : Bool
  /-- Which of two equally near decimals is written. -/
  tie : Tie

namespace Decimal

private def zeros (n : Int) : List Char := List.replicate n.toNat '0'

/-- All digits with the point at its place. -/
def positional (wholeFraction : Bool) (d : Decimal) : List Char :=
  if d.point ≤ 0 then '0' :: '.' :: (zeros (-d.point) ++ d.digits)
  else if (d.digits.length : Int) ≤ d.point then
    d.digits ++ zeros (d.point - d.digits.length) ++ (if wholeFraction then ['.', '0'] else [])
  else d.digits.take d.point.toNat ++ '.' :: d.digits.drop d.point.toNat

/-- One digit before the point and a power of ten after an `e`. -/
def scientific (d : Decimal) : List Char :=
  let rest := d.digits.drop 1
  d.digits.take 1 ++ (if rest.isEmpty then [] else '.' :: rest) ++
    'e' :: (toString (d.point - 1)).toList

/-- The digits in the given style. -/
def write (style : DecimalStyle) (d : Decimal) : List Char :=
  match style.positional with
  | none => d.positional style.wholeFraction
  | some (lowest, highest) =>
    if lowest < d.point ∧ d.point ≤ highest then d.positional style.wholeFraction
    else d.scientific

end Decimal

namespace Binary64

/-- The text of a finite number. -/
def write (style : DecimalStyle) (x : Binary64) : String :=
  let d := if x.isZero then { digits := ['0'], point := 1 } else x.shortest style.tie
  String.ofList ((if x.isNegative then ['-'] else []) ++ d.write style)

/-- Settings show numbers positionally, a whole number without a fraction, and of two equally
near decimals the one farther from zero. -/
def displayStyle : DecimalStyle := { positional := none, wholeFraction := false, tie := .away }

/-- The text of a number in settings. -/
def display (x : Binary64) : String :=
  if x.isNaN then "NaN"
  else if x.isInfinite then (if x.isNegative then "-inf" else "inf")
  else x.write displayStyle

end Binary64

end VolunteerAccess
