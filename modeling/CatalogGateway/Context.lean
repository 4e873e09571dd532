import CatalogGateway.ColdStart
import CatalogGateway.Route.Table

/-!
# Application contexts

What an instance builds once and then only reads: the name of the service and its routing table.
-/

namespace CatalogGateway

structure AppContext where
  service : String
  routes : RouteTable
deriving Inhabited

namespace AppContext

/-- Builds a context from routes; a pattern that is none makes it fail. -/
def ofRoutes (service : String) (specs : List RouteSpec) : Logged AppEntry (Built AppContext) := do
  match ← ({} : RouteTable).routeAll specs with
  | .error e => return .failed (.ofMessage e.message)
  | .ok routes => return .ready ⟨service, routes⟩

end AppContext

end CatalogGateway
