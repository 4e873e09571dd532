import CatalogGateway.Json.Decode
import CatalogGateway.Settings.Environment
import CatalogGateway.Text.Blank

/-!
# Settings of the log

The format in which log entries are written, and the filter for them.
-/

namespace CatalogGateway

inductive LogFormat where
  | json
  | text
deriving DecidableEq, Repr, Inhabited

namespace LogFormat

/-- The format that a text names; any other text names JSON. -/
def ofText (s : String) : LogFormat :=
  let word := Text.lowercase (Text.trim s)
  if word = "text" ∨ word = "pretty" then text else json

def name : LogFormat → String
  | json => "json"
  | text => "text"

def toJson (f : LogFormat) : Json := .string f.name

def ofJson : Json.Decoder LogFormat := Json.decodeChoice [("json", json), ("text", text)]

end LogFormat

structure LogSettings where
  format : LogFormat := .json
  level : String := "info"
deriving DecidableEq, Repr, Inhabited

namespace LogSettings

def ofEnvironment (env : Environment) : LogSettings where
  format := ((env.text? "LOG_FORMAT").map LogFormat.ofText).getD .json
  level := (env.text? "RUST_LOG").getD "info"

def toJson (s : LogSettings) : Json := .object [("format", s.format.toJson), ("level", .string s.level)]

def record : Json.Record LogSettings :=
  LogSettings.mk <$> .required "format" LogFormat.ofJson <*> .required "level" Json.decodeText

def ofJson : Json.Decoder LogSettings := record.decode "LoggingConfig"

end LogSettings

end CatalogGateway
