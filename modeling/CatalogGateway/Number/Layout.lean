import CatalogGateway.Number.Decimal
import CatalogGateway.Number.Shortest

/-!
# Layout of floating-point numerals

The text of a value is written from its shortest digits: positionally from `0.00001` up to sixteen digits before the
point, and with an exponent otherwise, which always has its sign.  A positional numeral always has a point.
-/

namespace CatalogGateway.Binary64

/-- The text of the decimal `c · 10 ^ p`, where the last digit of `c` is not zero. -/
def decimalText (c : Nat) (p : Int) : String :=
  let digits := Nat.toDigits 10 c
  let point : Int := digits.length + p
  if 0 ≤ p ∧ point ≤ 16 then
    String.ofList (digits ++ List.replicate p.toNat '0') ++ ".0"
  else if 0 < point ∧ point ≤ 16 then
    String.ofList (digits.take point.toNat) ++ "." ++ String.ofList (digits.drop point.toNat)
  else if -5 < point ∧ point ≤ 0 then
    "0." ++ String.ofList (List.replicate (-point).toNat '0' ++ digits)
  else
    let fraction := if digits.length = 1 then "" else "." ++ String.ofList (digits.drop 1)
    let sign := if point ≤ 0 then "" else "+"
    String.ofList (digits.take 1) ++ fraction ++ "e" ++ sign ++ Decimal.text (point - 1)

/-- The shortest numeral that reads back as the value. -/
def text (x : Binary64) : String :=
  let magnitude := if x.significand = 0 then "0.0" else decimalText x.shortest.1 x.shortest.2
  if x.negative then "-" ++ magnitude else magnitude

end CatalogGateway.Binary64
