import CatalogGateway.Text.Utf8

/-!
# Environments

The variables of a process.  Their values are octets; a value that is not UTF-8 counts as unset.
-/

namespace CatalogGateway

/-- The variables of a process with their values. -/
structure Environment where
  entries : List (String × Bytes) := []
deriving DecidableEq, Repr, Inhabited

namespace Environment

/-- The value of a variable, if it is set and a text. -/
def text? (env : Environment) (name : String) : Option String :=
  (env.entries.lookup name).bind Text.Utf8.decode?

end Environment

end CatalogGateway
