/-!
# Binary floating point

The finite values of the 64-bit binary format, each as a sign, a significand below `2 ^ 53` and a power of two, and
the rounding of exact quotients to them: to the nearest value, and to the one with the even significand when two are
equally near.  All arithmetic is exact up to that rounding, so it can be computed with natural numbers alone.
-/

namespace CatalogGateway

/-- The finite value `significand · 2 ^ exponent`, negated if `negative` is set. -/
structure Binary64 where
  negative : Bool
  significand : Nat
  exponent : Int
deriving DecidableEq, Repr, Inhabited

namespace Binary64

/-- The exponent of the smallest positive value. -/
def minExponent : Int := -1074

/-- The exponent of the largest values. -/
def maxExponent : Int := 971

def zero (negative : Bool) : Binary64 := ⟨negative, 0, minExponent⟩

/-- The smallest significand of 53 bits. -/
def minNormal : Nat := Nat.pow 2 52

/-- The absolute value as a quotient of natural numbers. -/
def ratio (x : Binary64) : Nat × Nat :=
  if 0 ≤ x.exponent then (x.significand * Nat.pow 2 x.exponent.toNat, 1)
  else (x.significand, Nat.pow 2 (-x.exponent).toNat)

/-- The quotient rounded to the nearest natural number, a half to the even neighbour. -/
def roundDiv (num den : Nat) : Nat :=
  let q := num / den
  let r := num % den
  if 2 * r < den then q else if den < 2 * r then q + 1 else q + q % 2

/-- The quotient divided by a power of two. -/
def divideByPower (num den : Nat) (exponent : Int) : Nat × Nat :=
  if 0 ≤ exponent then (num, den * Nat.pow 2 exponent.toNat) else (num * Nat.pow 2 (-exponent).toNat, den)

/-- The exponent that leaves a 53-bit significand for the quotient, or the smallest one. -/
def exponentFor (num den : Nat) : Int :=
  let e : Int := (num.log2 : Int) - den.log2 - 52
  let scaled := divideByPower num den e
  max minExponent (if scaled.1 / scaled.2 < minNormal then e - 1 else e)

/-- The value nearest to a quotient, unless it is beyond the largest one. -/
def ofRatio? (negative : Bool) (num den : Nat) : Option Binary64 :=
  if num = 0 then some (zero negative)
  else
    let e := exponentFor num den
    let scaled := divideByPower num den e
    let m := roundDiv scaled.1 scaled.2
    let x : Binary64 := if m = 2 * minNormal then ⟨negative, minNormal, e + 1⟩ else ⟨negative, m, e⟩
    if x.exponent ≤ maxExponent then some x else none

/-- The power of ten, itself rounded, as a quotient. -/
def powerOfTen (k : Nat) : Nat × Nat := ((ofRatio? false (Nat.pow 10 k) 1).getD default).ratio

/-- The largest power of ten in range. -/
def maxPowerOfTen : Nat := 308

/-- The product with a power of ten, unless it is out of range. -/
def timesPowerOfTen? (x : Binary64) (k : Nat) : Option Binary64 :=
  if k ≤ maxPowerOfTen then
    ofRatio? x.negative (x.ratio.1 * (powerOfTen k).1) (x.ratio.2 * (powerOfTen k).2)
  else if x.significand = 0 then some x
  else none

/-- The quotient by a power of ten in range. -/
def overPower (x : Binary64) (k : Nat) : Binary64 :=
  (ofRatio? x.negative (x.ratio.1 * (powerOfTen k).2) (x.ratio.2 * (powerOfTen k).1)).getD (zero x.negative)

/-- The quotient by a power of ten, taken in steps that are in range. -/
def overPowerOfTen (x : Binary64) (k : Nat) : Binary64 :=
  if k ≤ maxPowerOfTen then overPower x k
  else if x.significand = 0 then x
  else overPowerOfTen (overPower x maxPowerOfTen) (k - maxPowerOfTen)
termination_by k
decreasing_by simp only [maxPowerOfTen] at *; omega

/-- The value of `± significand · 10 ^ exponent`, computed as readers of decimal numerals commonly do: the significand
and the power of ten are rounded first, and then their product or quotient. -/
def ofDecimal? (negative : Bool) (significand : Nat) (exponent : Int) : Option Binary64 := do
  let x ← ofRatio? negative significand 1
  if 0 ≤ exponent then x.timesPowerOfTen? exponent.toNat
  else some (x.overPowerOfTen (-exponent).toNat)

end Binary64

end CatalogGateway
