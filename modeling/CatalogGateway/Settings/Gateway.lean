import CatalogGateway.Log
import CatalogGateway.Settings.Environment
import CatalogGateway.Settings.Values

/-!
# Settings of the gateway

The name of the service, the time kept in reserve before a deadline, and whether stages are taken off paths.  Reading
them never fails: a value that cannot be read is recorded and the default stands in for it.
-/

namespace CatalogGateway

structure GatewaySettings where
  service : String := "catalog-lambda"
  /-- The time kept in reserve before a deadline, in milliseconds. -/
  margin : Nat := 250
  /-- Whether the stage is taken off paths. -/
  stripStage : Bool := true
deriving DecidableEq, Repr, Inhabited

namespace GatewaySettings

/-- The name of the service: the first of two variables that is set, unless it is blank. -/
def readService (env : Environment) : String :=
  let name := (env.text? "SERVICE_NAME").or (env.text? "AWS_LAMBDA_FUNCTION_NAME")
  (name.filter (Text.trim · ≠ "")).getD ({} : GatewaySettings).service

def readMargin (env : Environment) : Logged LogEntry Nat :=
  match env.text? "CATALOG_TIMEOUT_MARGIN_MS" with
  | none => return ({} : GatewaySettings).margin
  | some raw =>
    match Setting.number raw with
    | .ok n => return n
    | .error e => do
      Logged.record (.marginIgnored raw e.message)
      return ({} : GatewaySettings).margin

def readStripStage (env : Environment) : Logged LogEntry Bool :=
  match env.text? "CATALOG_STRIP_STAGE" with
  | none => return ({} : GatewaySettings).stripStage
  | some raw =>
    match Setting.switch? raw with
    | some b => return b
    | none => do
      Logged.record (.stripStageIgnored raw)
      return ({} : GatewaySettings).stripStage

def ofEnvironment (env : Environment) : Logged LogEntry GatewaySettings := do
  let margin ← readMargin env
  let stripStage ← readStripStage env
  return { service := readService env, margin, stripStage }

end GatewaySettings

end CatalogGateway
