/-!
# Tokens

The tokens of HTTP, of which methods and header names are made.
-/

namespace CatalogGateway

/-- The characters of a token that are neither letters nor digits. -/
def tokenMarks : List Char :=
  ['!', '#', '$', '%', '&', '\x27', '*', '+', '-', '.', '^', '_', '\x60', '|', '~']

/-- A character that may stand in a token. -/
def isTokenChar (c : Char) : Bool := c.isAlphanum || tokenMarks.contains c

/-- A token: one or more token characters. -/
def isToken (s : String) : Bool := s ≠ "" && s.toList.all isTokenChar

end CatalogGateway
