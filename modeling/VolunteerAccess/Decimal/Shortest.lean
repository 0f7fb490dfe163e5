import VolunteerAccess.Decimal.Binary64

/-!
# Shortest decimal digits of a binary64 number

A number is written with the fewest digits that read back as itself, and among
those with the digits nearest to it. Two decimals may be equally near, and then
the format decides.

- `Tie`: which of two equally near decimals is taken.
- `Decimal`: digits and the place of the point, `0.d₁d₂… · 10 ^ point`.
- `Binary64.shortest`: the digits of a finite nonzero number. A number `s · 2 ^ q`
  is read from every decimal between the midpoints to its neighbours, the ends
  included exactly when `s` is even; the first grid `10 ^ (point - n)`,
  `n = 1, 2, …, 17`, with a point in that interval supplies the digits. The grid
  of 17 digits has one for every number.
-/

namespace VolunteerAccess

/-- Which of two equally near decimals of one length is taken. -/
inductive Tie where
  /-- The one whose last digit is even. -/
  | even
  /-- The one farther from zero. -/
  | away
deriving DecidableEq, Repr, Inhabited

/-- Whether the decimal above is taken, by the digits of the one below. -/
def Tie.takesAbove (below : Nat) : Tie → Bool
  | .even => below % 2 == 1
  | .away => true

/-- The magnitude `0.d₁d₂… · 10 ^ point`, as the number `digits` and its count of digits. -/
structure Decimal where
  /-- The digits without the point, most significant first. -/
  digits : List Char
  /-- How many digits stand before the point; it may be negative or beyond the digits. -/
  point : Int
deriving Repr, DecidableEq

/-! ## Comparing ratios with powers of ten -/

/-- `num · 10 ^ k` and `den` as naturals in the same ratio. -/
private def scaleTen (num den : Nat) (k : Int) : Nat × Nat :=
  if 0 ≤ k then (num * Nat.pow 10 k.toNat, den) else (num, den * Nat.pow 10 (-k).toNat)

/-- Raise `k` until `num / den < 10 ^ k`, at most `fuel` times. -/
private def raisePoint (num den : Nat) : Nat → Int → Int
  | 0, k => k
  | fuel + 1, k =>
    let s := scaleTen num den (-k)
    if s.1 < s.2 then k else raisePoint num den fuel (k + 1)

/-- The least `k` with `num / den < 10 ^ k`, for a ratio that is not zero. The start
is a lower estimate from the binary logarithms, off by two at most. -/
def decimalPoint (num den : Nat) : Int :=
  raisePoint num den 4 (((num.log2 : Int) - den.log2 - 1) * 1233 / 4096 - 1)

namespace Binary64

/-- Whether `c · 10 ^ t` is read back as the number with the given significand and
ratio `num / den`. Distances are measured in quarters of the last binary place,
since the midpoint below a power of two lies at half the distance. -/
private def readsBack (x : Binary64) (c : Nat) (t : Int) : Bool :=
  let s := x.significand
  let r := x.ratio
  -- `lo`, `hi` and `c · 10 ^ t`, each times `4 * s` over the number itself
  let lo := if x.fractionField = 0 ∧ 1 < x.exponentField then 4 * s - 1 else 4 * s - 2
  let hi := 4 * s + 2
  let p := scaleTen (c * r.2) r.1 t
  let mine := p.1 * (4 * s)
  if s % 2 = 0 then lo * p.2 ≤ mine ∧ mine ≤ hi * p.2
  else lo * p.2 < mine ∧ mine < hi * p.2

/-- The better of the two neighbours of the number on the grid of `n` digits, if one
of them reads back. -/
private def onGrid (tie : Tie) (x : Binary64) (point : Int) (n : Nat) : Option (Nat × Int) :=
  let t := point - n
  let r := x.ratio
  let p := scaleTen r.1 r.2 (-t)
  let below := p.1 / p.2
  let rest := p.1 % p.2
  let belowFits := x.readsBack below t && 0 < below
  let aboveFits := x.readsBack (below + 1) t
  let aboveNearer : Bool := p.2 < 2 * rest || (2 * rest == p.2 && tie.takesAbove below)
  if belowFits && (!aboveFits || !aboveNearer) then some (below, t)
  else if aboveFits then some (below + 1, t)
  else none

/-- The first grid from `n` on, of at most `fuel`, that holds a decimal which reads back. -/
private def firstGrid (tie : Tie) (x : Binary64) (point : Int) : Nat → Nat → Nat × Int
  | 0, n =>
    let p := scaleTen x.ratio.1 x.ratio.2 (n - point)
    (roundRatio p.1 p.2, point - n)
  | fuel + 1, n => (x.onGrid tie point n).getD (firstGrid tie x point fuel (n + 1))

/-- Drop the zeros at the end of a digit string. -/
private def dropZeros (ds : List Char) : List Char :=
  (ds.reverse.dropWhile (· == '0')).reverse

/-- The shortest decimal that reads back as the finite nonzero number `x`. -/
def shortest (tie : Tie) (x : Binary64) : Decimal :=
  let r := x.ratio
  let c := firstGrid tie x (decimalPoint r.1 r.2) 17 1
  let ds := (toString c.1).toList
  { digits := dropZeros ds, point := c.2 + ds.length }

end Binary64

end VolunteerAccess
