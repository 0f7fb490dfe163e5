/-!
# Binary64 numbers as bit patterns

Documents write numbers in decimal and are compared as 64-bit binary floating
point. All of it is done here in exact natural-number arithmetic.

- `Binary64`: a number by its 64 bits; a finite one has the magnitude
  `significand · 2 ^ exponent`.
- `Binary64.nearest`: the number nearest to a ratio of naturals, an exact tie
  going to the even significand, a magnitude that is too large to infinity.
- `Binary64.ofDecimal`: the number nearest to `digits · 10 ^ exponent`.
- `Binary64.same`: equality of values, under which the two zeros are equal and
  nothing equals a NaN.
-/

namespace VolunteerAccess

/-- A 64-bit binary floating-point number: a sign bit, eleven exponent bits and
fifty-two fraction bits. -/
structure Binary64 where
  bits : UInt64
deriving DecidableEq, Inhabited

namespace Binary64

/-! ## Parts of a number -/

def isNegative (x : Binary64) : Bool := x.bits.toNat / Nat.pow 2 63 == 1

/-- The exponent field, from 0 to 2047. -/
def exponentField (x : Binary64) : Nat := x.bits.toNat / Nat.pow 2 52 % 2048

/-- The fraction field, below `2 ^ 52`. -/
def fractionField (x : Binary64) : Nat := x.bits.toNat % Nat.pow 2 52

def isNaN (x : Binary64) : Bool := x.exponentField == 2047 && x.fractionField != 0

def isInfinite (x : Binary64) : Bool := x.exponentField == 2047 && x.fractionField == 0

def isZero (x : Binary64) : Bool := x.exponentField == 0 && x.fractionField == 0

/-- The integral significand; a normal number has a leading one that is not stored. -/
def significand (x : Binary64) : Nat :=
  if x.exponentField = 0 then x.fractionField else x.fractionField + Nat.pow 2 52

/-- The power of two that the significand is scaled by, moved up by 1074 to be a natural. -/
def scale (x : Binary64) : Nat := x.exponentField - 1

/-- The magnitude of a finite number as a ratio of naturals. -/
def ratio (x : Binary64) : Nat × Nat :=
  if 1074 ≤ x.scale then (x.significand * Nat.pow 2 (x.scale - 1074), 1)
  else (x.significand, Nat.pow 2 (1074 - x.scale))

/-- Equality of values: the two zeros are equal, and a NaN equals nothing. -/
def same (x y : Binary64) : Bool :=
  !x.isNaN && !y.isNaN && (x.bits == y.bits || x.isZero && y.isZero)

/-! ## Numbers from ratios and decimals -/

/-- The number with the given sign whose magnitude bits are `magnitude`; beyond
the largest finite magnitude lies infinity. -/
def ofMagnitude (negative : Bool) (magnitude : Nat) : Binary64 :=
  ⟨UInt64.ofNat (min magnitude (2047 * Nat.pow 2 52) + if negative then Nat.pow 2 63 else 0)⟩

def infinity (negative : Bool) : Binary64 := ofMagnitude negative (2047 * Nat.pow 2 52)

def nan : Binary64 := ⟨0x7ff8000000000000⟩

/-- The integer nearest to `num / den`, a tie going to the even one. -/
def roundRatio (num den : Nat) : Nat :=
  let q := num / den
  let r := num % den
  if den < 2 * r || (den == 2 * r && q % 2 == 1) then q + 1 else q

/-- The number nearest to `num / den`.

The scale is chosen so that the quotient has fifty-three bits, or is as fine as
numbers get; adding the rounded quotient to the shifted scale carries into the
exponent field by itself when rounding reaches the next power of two. -/
def nearest (negative : Bool) (num den : Nat) : Binary64 :=
  if num = 0 then ofMagnitude negative 0
  else
    let estimate : Int := (num.log2 : Int) - den.log2 - 53
    let wide : Bool :=
      if 0 ≤ estimate then Nat.pow 2 53 * (den * Nat.pow 2 estimate.toNat) ≤ num
      else Nat.pow 2 53 * den ≤ num * Nat.pow 2 (-estimate).toNat
    let exponent : Int := max (if wide then estimate + 1 else estimate) (-1074)
    let quotient :=
      if 0 ≤ exponent then roundRatio num (den * Nat.pow 2 exponent.toNat)
      else roundRatio (num * Nat.pow 2 (-exponent).toNat) den
    ofMagnitude negative ((exponent + 1074).toNat * Nat.pow 2 52 + quotient)

/-- The number nearest to `digits · 10 ^ exponent`. Exponents far outside the range
of finite numbers are settled without computing the power. -/
def ofDecimal (negative : Bool) (digits : Nat) (exponent : Int) : Binary64 :=
  if digits = 0 then ofMagnitude negative 0
  else if 400 < exponent then infinity negative
  else if (digits.log2 : Int) + 3 * exponent < -1200 then ofMagnitude negative 0
  else if 0 ≤ exponent then nearest negative (digits * Nat.pow 10 exponent.toNat) 1
  else nearest negative digits (Nat.pow 10 (-exponent).toNat)

def ofNat (n : Nat) : Binary64 := nearest false n 1

/-- The product, rounded once. -/
def mul (x y : Binary64) : Binary64 :=
  nearest (x.isNegative != y.isNegative) (x.ratio.1 * y.ratio.1) (x.ratio.2 * y.ratio.2)

/-- The quotient by a nonzero number, rounded once. -/
def div (x y : Binary64) : Binary64 :=
  nearest (x.isNegative != y.isNegative) (x.ratio.1 * y.ratio.2) (x.ratio.2 * y.ratio.1)

/-- The number of opposite sign. -/
def neg (x : Binary64) : Binary64 := ⟨x.bits ^^^ 0x8000000000000000⟩

/-- The power of ten, rounded once. -/
def powerOfTen (k : Nat) : Binary64 := nearest false (Nat.pow 10 k) 1

end Binary64

end VolunteerAccess
