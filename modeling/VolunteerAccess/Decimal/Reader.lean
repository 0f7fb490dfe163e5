import VolunteerAccess.Decimal.Binary64
import VolunteerAccess.Text.Basic

/-!
# Reading numbers from plain text

Documents hold whole numbers of a limited range, settings those of another one.
A variable of the environment is plain text, and one that looks like a number
counts as one. The whole text must be the number; blanks are not skipped.

- `Decimal.isNatural64`: naturals of 64 bits, `0` to `2 ^ 64 - 1`.
- `Decimal.isSigned64`: 64 bits with a sign, `-2 ^ 63` to `2 ^ 63 - 1`.
- `Decimal.isWide`: what 128 bits hold, with or without a sign, `-2 ^ 127` to
  `2 ^ 128 - 1`.
- `Decimal.wholeNumber?`: a sign and digits, within 64 bits.
- `Binary64.ofText?`: digits with a point, an exponent or both, and the names of
  infinity and NaN in any case.
-/

namespace VolunteerAccess

namespace Decimal

/-! ## Ranges -/

def isNatural64 (n : Int) : Bool := 0 ≤ n && n.toNat < Nat.pow 2 64

def isSigned64 (n : Int) : Bool :=
  if 0 ≤ n then n.toNat < Nat.pow 2 63 else n.natAbs ≤ Nat.pow 2 63

def isWide (n : Int) : Bool :=
  if 0 ≤ n then n.toNat < Nat.pow 2 128 else n.natAbs ≤ Nat.pow 2 127

/-- The natural of 64 bits that a whole number is. -/
def natural64? (n : Int) : Option UInt64 :=
  if isNatural64 n then some (UInt64.ofNat n.toNat) else none

/-! ## Texts -/

/-- A sign, which may be left out, and the rest. -/
def signed : List Char → Bool × List Char
  | '-' :: cs => (true, cs)
  | '+' :: cs => (false, cs)
  | cs => (false, cs)

/-- The whole number of a text: a sign, which may be left out, and one digit or more, the
value being one of 64 bits with a sign. -/
def wholeNumber? (s : String) : Option Int :=
  let (negative, cs) := signed s.toList
  match Text.digits cs with
  | (d :: ds, []) =>
    let n : Int := Text.digitsValue (d :: ds)
    let n := if negative then -n else n
    if isSigned64 n then some n else none
  | _ => none

/-- The digits after a point, if there is one. -/
def fraction : List Char → List Nat × List Char
  | '.' :: cs => Text.digits cs
  | cs => ([], cs)

/-- The power of ten after an `e`, up to the end of the text. -/
def power? : List Char → Option Int
  | [] => some 0
  | c :: cs =>
    if c == 'e' || c == 'E' then
      let (negative, cs) := signed cs
      match Text.digits cs with
      | (d :: ds, []) =>
        let n : Int := Text.digitsValue (d :: ds)
        some (if negative then -n else n)
      | _ => none
    else none

end Decimal

namespace Binary64

/-- The number nearest to a decimal text. There is at least one digit before the exponent,
on either side of the point. -/
def ofText? (s : String) : Option Binary64 :=
  let (negative, cs) := Decimal.signed s.toList
  let name := Text.lowerAscii (String.ofList cs)
  if name == "inf" || name == "infinity" then some (infinity negative)
  else if name == "nan" then some (if negative then nan.neg else nan)
  else
    let (whole, cs) := Text.digits cs
    let (fraction, cs) := Decimal.fraction cs
    if (whole ++ fraction).isEmpty then none
    else
      (Decimal.power? cs).map fun e =>
        ofDecimal negative (Text.digitsValue (whole ++ fraction)) (e - fraction.length)

end Binary64

end VolunteerAccess
