import CatalogGateway.Catalog.Application
import CatalogGateway.Session
import CatalogGateway.Settings.Gateway

/-!
# The catalog service

A process that serves the catalog.  The settings of the gateway are those of the environment in which it started; the
context factory builds the catalog from the environment in force when it runs.
-/

namespace CatalogGateway

inductive ServiceStep where
  | invoke (i : Invocation)
  | readContext
  | setEnvironment (env : Environment)

/-- A process that serves the catalog: its environment, the settings it started with, and its instance. -/
structure Service where
  environment : Environment
  settings : GatewaySettings
  current : Instance := {}

namespace Service

def start (env : Environment) : Logged LogEntry Service := do
  let settings ← GatewaySettings.ofEnvironment env
  return { environment := env, settings }

def entrypoint (v : Service) : Entrypoint := ⟨v.settings.stripStage, v.settings.margin⟩

def step (v : Service) : ServiceStep → Logged LogEntry (StepResult × Service)
  | .invoke i => do
    let factory := Catalog.contextOfEnvironment v.settings.service v.environment
    let (result, s) ← v.entrypoint.invoke factory v.current i
    return (.invoked result, { v with current := s })
  | .readContext => return (.context v.current.context?, v)
  | .setEnvironment env => return (.done, { v with environment := env })

/-- Takes the steps of a service one after the other, from a given state on; gives what each of them shows and records,
and the state after it. -/
def run (v : Service) : List ServiceStep → List (Logged LogEntry (StepResult × Service))
  | [] => []
  | step :: rest =>
    let taken := v.step step
    taken :: taken.value.2.run rest

end Service

end CatalogGateway
