/-!
# Error chains

An error with the errors that led to it.
-/

namespace CatalogGateway

/-- An error message, and the messages of its causes from the nearest one on. -/
structure ErrorChain where
  message : String
  causes : List String := []
deriving DecidableEq, Repr, Inhabited

def ErrorChain.text (e : ErrorChain) : String := ": ".intercalate (e.message :: e.causes)

end CatalogGateway
