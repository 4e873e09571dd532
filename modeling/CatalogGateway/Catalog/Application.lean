import CatalogGateway.Catalog.Documents
import CatalogGateway.Context
import CatalogGateway.Problem
import CatalogGateway.Settings.Catalog

/-!
# The catalog application

The handlers of the catalog, its routes, and the factory of its context.
-/

namespace CatalogGateway.Catalog

def minApiVersion : UInt32 := 1

def maxApiVersion : UInt32 := 2

def specVersion : String := "2.1.0"

def configV1 (settings : CatalogSettings) : Handler :=
  .ofResponse fun _ => .json (ConfigV1.mk settings.defaultBranch maxApiVersion).toJson

def configV2 (settings : CatalogSettings) : Handler :=
  .ofResponse fun _ =>
    .json (ConfigV2.mk settings.defaultBranch minApiVersion maxApiVersion maxApiVersion specVersion).toJson

def listReferences (settings : CatalogSettings) : Handler :=
  .ofResponse fun _ => .json (References.mk (settings.references.map Reference.branch)).toJson

/-- Answers with the reference that the path names, or with a problem if it is not configured. -/
def getReference (settings : CatalogSettings) : Handler := fun call =>
  match call.params.get? "ref" with
  | none => { result := .failure ⟨"route is missing the 'ref' parameter", []⟩ }
  | some name =>
    match settings.reference? name with
    | some found => { result := .response (.json (Reference.branch found).toJson) }
    | none =>
      { result := .response
          (Problem.notFound ("Named reference '" ++ name ++ "' not found") call.request.requestId).toResponse
        log := [.referenceMissing name] }

/-- Answers that the service is up: a handler can only run once there is a context. -/
def health (service : String) : Handler := .ofResponse fun _ => .json (Health.mk "ok" service).toJson

def routes (service : String) (settings : CatalogSettings) : List RouteSpec := [
  ⟨.get, "/api/v1/config", configV1 settings⟩,
  ⟨.get, "/api/v2/config", configV2 settings⟩,
  ⟨.get, "/api/v2/trees", listReferences settings⟩,
  ⟨.get, "/api/v2/trees/\x7b*ref\x7d", getReference settings⟩,
  ⟨.get, "/health/live", health service⟩,
  ⟨.get, "/health/ready", health service⟩]

def buildContext (service : String) (settings : CatalogSettings) : Logged AppEntry (Built AppContext) := do
  match ← AppContext.ofRoutes service (routes service settings) with
  | .ready context => do
    Logged.record
      (.catalogRegistered service context.routes.size settings.defaultBranch settings.references.length)
    return .ready context
  | other => return other

/-- Builds the context of the catalog from the settings in the environment. -/
def contextOfEnvironment (service : String) (env : Environment) : Logged AppEntry (Built AppContext) :=
  match CatalogSettings.ofEnvironment env with
  | .error e => return .failed (.ofMessage e.message)
  | .ok settings => buildContext service settings

end CatalogGateway.Catalog
