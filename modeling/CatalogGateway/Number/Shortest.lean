import CatalogGateway.Number.Binary64

/-!
# Shortest decimals

The decimal with the fewest digits among those that are rounded to a given binary value, and the nearest to it of
these.  A decimal is rounded to a value if it lies between the midpoints to the neighbouring values; a midpoint itself
belongs to the value with the even significand.  For each number of digits only the two neighbours of the value on the
grid of decimals with that many digits have to be tried.
-/

namespace CatalogGateway.Binary64

/-- The number of decimal digits before the point of a positive quotient; it is not positive below one tenth. -/
def decimalMagnitude (num den : Nat) : Int :=
  let k : Int := (Nat.toDigits 10 num).length - (Nat.toDigits 10 den).length
  let reached := if 0 ≤ k then den * Nat.pow 10 k.toNat ≤ num else den ≤ num * Nat.pow 10 (-k).toNat
  if reached then k + 1 else k

/-- The decimals `c · 10 ^ p`, over the values `b · 2 ^ (x.exponent - 2)`, as natural numbers in a common unit. -/
structure Grid where
  /-- The unit of the decimals. -/
  decimalUnit : Nat
  /-- The unit of the binary values. -/
  binaryUnit : Nat

/-- The grid of decimals with exponent `p` beside the quarters of the last place of `x`. -/
def grid (x : Binary64) (p : Int) : Grid where
  decimalUnit := Nat.pow 10 p.toNat * Nat.pow 2 (2 - x.exponent).toNat
  binaryUnit := Nat.pow 2 (x.exponent - 2).toNat * Nat.pow 10 (-p).toNat

/-- The distance from the value down to the midpoint below it, in quarters of its last place. -/
def gapBelow (x : Binary64) : Nat :=
  if x.significand = minNormal ∧ minExponent < x.exponent then 1 else 2

/-- Whether the decimal `c` on the grid is rounded to the value. -/
def readsBack (x : Binary64) (g : Grid) (c : Nat) : Bool :=
  let low := (4 * x.significand - x.gapBelow) * g.binaryUnit
  let high := (4 * x.significand + 2) * g.binaryUnit
  let d := c * g.decimalUnit
  if x.significand % 2 = 0 then low ≤ d && d ≤ high else low < d && d < high

/-- The neighbour on the grid of exponent `p` that is rounded to the value; of two, the nearer, and of two equally near,
the even one. -/
def nearestOn? (x : Binary64) (p : Int) : Option Nat :=
  let g := x.grid p
  let v := 4 * x.significand * g.binaryUnit
  let c := v / g.decimalUnit
  match x.readsBack g c, x.readsBack g (c + 1) with
  | true, true =>
    let below := v - c * g.decimalUnit
    let above := (c + 1) * g.decimalUnit - v
    some (if below < above then c else if above < below then c + 1 else c + c % 2)
  | true, false => some c
  | false, true => some (c + 1)
  | false, false => none

/-- Drops the zeros at the end of the digits of a number, at most as many as the first argument says. -/
def dropZeros : Nat → Nat × Int → Nat × Int
  | 0, d => d
  | n + 1, (c, p) => if c % 10 = 0 then dropZeros n (c / 10, p + 1) else (c, p)

/-- The shortest decimal `c · 10 ^ p` that is rounded to the absolute value of a value other than zero. -/
def shortest (x : Binary64) : Nat × Int :=
  let magnitude := decimalMagnitude x.ratio.1 x.ratio.2
  let found := (List.range 17).findSome? fun (k : Nat) =>
    let p : Int := magnitude - (k : Int) - 1
    (x.nearestOn? p).map fun c => (c, p)
  dropZeros 17 (found.getD (x.significand, 0))

end CatalogGateway.Binary64
