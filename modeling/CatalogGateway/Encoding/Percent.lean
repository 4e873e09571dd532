import CatalogGateway.Text.Ascii
import CatalogGateway.Text.Utf8

/-!
# Percent escapes

Reading the escapes `%XX` of a text.  A percent sign that no two hexadecimal digits follow stands for itself, so
every text can be read; what it spells need not be UTF-8.
-/

namespace CatalogGateway.Percent

open Text

/-- The octets that the characters spell, with every escape replaced by the octet it names. -/
def octets : List Char → Bytes
  | [] => []
  | '%' :: high :: low :: rest =>
    match hexDigit? high, hexDigit? low with
    | some h, some l => UInt8.ofNat (16 * h + l) :: octets rest
    -- no escape: the sign stands for itself, and what follows is read anew
    | _, _ => String.utf8EncodeChar '%' ++ octets (high :: low :: rest)
  | c :: rest => String.utf8EncodeChar c ++ octets rest

/-- The text that a percent-encoded text spells, if its octets are UTF-8. -/
def decode? (s : String) : Option String := Utf8.decode? (octets s.toList)

end CatalogGateway.Percent
