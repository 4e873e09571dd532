/-!
# Phases

The phase of an instance, as handlers and observers see it.
-/

namespace CatalogGateway

inductive Phase where
  /-- There is no application context yet. -/
  | cold
  /-- There is an application context, and no invocation is going on. -/
  | warm
  /-- An invocation is going on. -/
  | handling
deriving DecidableEq, Repr, Inhabited

def Phase.name : Phase → String
  | cold => "Cold"
  | warm => "Warm"
  | handling => "Handling"

end CatalogGateway
