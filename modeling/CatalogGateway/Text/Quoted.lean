import CatalogGateway.Text.Ascii
import CatalogGateway.Text.CharTables

/-!
# Quoted text

The form in which a message shows a text it was given: between double quotes, with a backslash before quotes and
backslashes, short escapes for the usual control characters, and the code point of every other character that would
not show by itself.
-/

namespace CatalogGateway.Text

/-- Whether the code point lies in one of the ranges. -/
def inRanges (ranges : List (Nat × Nat)) (n : Nat) : Bool := ranges.any fun r => r.1 ≤ n && n ≤ r.2

/-- A character that shows by itself: it is printable, not a filler, and does not join the character before it. -/
def isVisible (c : Char) : Bool :=
  if c.toNat < 0x7f then 0x20 ≤ c.toNat
  else !inRanges graphemeExtendRanges c.toNat && !inRanges fillerRanges c.toNat &&
    !inRanges notPrintableRanges c.toNat

/-- A character as it stands between the quotes. -/
def quotedChar (c : Char) : List Char :=
  if c = '\x00' then ['\\', '0']
  else if c = '\t' then ['\\', 't']
  else if c = '\r' then ['\\', 'r']
  else if c = '\n' then ['\\', 'n']
  else if c = '\\' ∨ c = '"' then ['\\', c]
  else if isVisible c then [c]
  else ['\\', 'u', '{'] ++ hexDigits c.toNat ++ ['}']

/-- The text between double quotes, with everything that would not show by itself escaped. -/
def quoted (s : String) : String := String.ofList ('"' :: s.toList.flatMap quotedChar ++ ['"'])

end CatalogGateway.Text
