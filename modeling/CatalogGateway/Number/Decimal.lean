/-!
# Decimal numerals of integers

The numeral of an integer has its digits without leading zeros, after a minus sign if it is negative.
-/

namespace CatalogGateway.Decimal

def numeral (n : Int) : List Char := if n < 0 then '-' :: Nat.toDigits 10 n.natAbs else Nat.toDigits 10 n.natAbs

def text (n : Int) : String := String.ofList (numeral n)

end CatalogGateway.Decimal
