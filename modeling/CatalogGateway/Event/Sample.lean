import CatalogGateway.Json.Printer

/-!
# Sample events

Small events in both formats, for trying out an application.
-/

namespace CatalogGateway.Sample

def requestId (suffix : String) : String := "test-request-" ++ suffix

def eventV2 (method path : String) : Json :=
  .object [
    ("version", .string "2.0"),
    ("routeKey", .string "$default"),
    ("rawPath", .string path),
    ("rawQueryString", .string ""),
    ("headers", .object []),
    ("requestContext", .object [
      ("requestId", .string "apigw-v2-request"),
      ("stage", .string "$default"),
      ("http", .object [
        ("method", .string method),
        ("path", .string path),
        ("protocol", .string "HTTP/1.1"),
        ("sourceIp", .string "203.0.113.10"),
        ("userAgent", .string "test-agent")])]),
    ("isBase64Encoded", .bool false)]

def eventV1 (method path : String) : Json :=
  .object [
    ("resource", .string "/\x7bproxy+\x7d"),
    ("path", .string path),
    ("httpMethod", .string method),
    ("headers", .null),
    ("multiValueHeaders", .null),
    ("queryStringParameters", .null),
    ("multiValueQueryStringParameters", .null),
    ("requestContext", .object [
      ("requestId", .string "apigw-v1-request"),
      ("stage", .string "prod"),
      ("httpMethod", .string method),
      ("identity", .object [("sourceIp", .string "203.0.113.11")])]),
    ("body", .null),
    ("isBase64Encoded", .bool false)]

/-- The event with a JSON document for a body, or the message for a value that has no members. -/
def withJsonBody (event body : Json) : Except String Json :=
  match event with
  | .null => .ok (.object (written []))
  | .object members => .ok (.object (written members))
  | .array _ => .error (noMembers "array")
  | .bool _ => .error (noMembers "boolean")
  | .number _ => .error (noMembers "number")
  | .string _ => .error (noMembers "string")
where
  /-- The members with the body and its flag written. -/
  written (members : List (String × Json)) : List (String × Json) :=
    Json.write "isBase64Encoded" (.bool false) (Json.write "body" (.string body.text) members)
  /-- The message for a value of a kind that has no members. -/
  noMembers (kind : String) : String := "cannot access key \"body\" in JSON " ++ kind

end CatalogGateway.Sample
