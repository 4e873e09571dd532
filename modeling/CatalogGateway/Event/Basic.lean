import CatalogGateway.Json.Decode

/-!
# Gateway events

The events in which an API gateway hands requests over, in the formats 1.0 and 2.0, and their JSON form.  Of an event
only the members below are read; writing leaves out those that are absent, so that reading what was written gives the
event back.
-/

namespace CatalogGateway

structure EventHttp where
  method : Option String := none
  path : Option String := none
  sourceIp : Option String := none
deriving DecidableEq, Repr, Inhabited

structure EventIdentity where
  sourceIp : Option String := none
deriving DecidableEq, Repr, Inhabited

structure EventContext where
  requestId : Option String := none
  stage : Option String := none
  httpMethod : Option String := none
  http : Option EventHttp := none
  identity : Option EventIdentity := none
deriving DecidableEq, Repr, Inhabited

/-- An event.  Headers stay in the order of the payload, query parameters are sorted. -/
structure Event where
  version : Option String := none
  httpMethod : Option String := none
  path : Option String := none
  rawPath : Option String := none
  headers : Option (List (String × String)) := none
  multiValueHeaders : Option (List (String × List String)) := none
  cookies : Option (List String) := none
  queryStringParameters : Option (NameMap String) := none
  multiValueQueryStringParameters : Option (NameMap (List String)) := none
  body : Option String := none
  isBase64Encoded : Bool := false
  requestContext : Option EventContext := none
deriving DecidableEq, Inhabited

namespace EventHttp

def toJson (h : EventHttp) : Json :=
  .object <| Json.present "method" .string h.method ++ Json.present "path" .string h.path ++
    Json.present "sourceIp" .string h.sourceIp

def record : Json.Record EventHttp :=
  EventHttp.mk <$> .optional "method" Json.decodeText <*> .optional "path" Json.decodeText
    <*> .optional "sourceIp" Json.decodeText

def ofJson : Json.Decoder EventHttp := record.decode "EventHttp"

end EventHttp

namespace EventIdentity

def toJson (i : EventIdentity) : Json := .object (Json.present "sourceIp" .string i.sourceIp)

def record : Json.Record EventIdentity := EventIdentity.mk <$> .optional "sourceIp" Json.decodeText

def ofJson : Json.Decoder EventIdentity := record.decode "EventIdentity"

end EventIdentity

namespace EventContext

def toJson (c : EventContext) : Json :=
  .object <| Json.present "requestId" .string c.requestId ++ Json.present "stage" .string c.stage ++
    Json.present "httpMethod" .string c.httpMethod ++ Json.present "http" EventHttp.toJson c.http ++
    Json.present "identity" EventIdentity.toJson c.identity

def record : Json.Record EventContext :=
  EventContext.mk <$> .optional "requestId" Json.decodeText <*> .optional "stage" Json.decodeText
    <*> .optional "httpMethod" Json.decodeText <*> .optional "http" EventHttp.ofJson
    <*> .optional "identity" EventIdentity.ofJson

def ofJson : Json.Decoder EventContext := record.decode "EventRequestContext"

end EventContext

namespace Event

def toJson (e : Event) : Json :=
  .object <| Json.present "version" .string e.version ++ Json.present "httpMethod" .string e.httpMethod ++
    Json.present "path" .string e.path ++ Json.present "rawPath" .string e.rawPath ++
    Json.present "headers" (Json.ofEntries .string) e.headers ++
    Json.present "multiValueHeaders" (Json.ofEntries Json.strings) e.multiValueHeaders ++
    Json.present "cookies" Json.strings e.cookies ++
    Json.present "queryStringParameters" (fun m => Json.ofEntries .string m.entries) e.queryStringParameters ++
    Json.present "multiValueQueryStringParameters" (fun m => Json.ofEntries Json.strings m.entries)
      e.multiValueQueryStringParameters ++
    Json.present "body" .string e.body ++ [("isBase64Encoded", .bool e.isBase64Encoded)] ++
    Json.present "requestContext" EventContext.toJson e.requestContext

def record : Json.Record Event :=
  Event.mk <$> .optional "version" Json.decodeText <*> .optional "httpMethod" Json.decodeText
    <*> .optional "path" Json.decodeText <*> .optional "rawPath" Json.decodeText
    <*> .optional "headers" (Json.decodeMembers Json.decodeText)
    <*> .optional "multiValueHeaders" (Json.decodeMembers (Json.decodeList Json.decodeText))
    <*> .optional "cookies" (Json.decodeList Json.decodeText)
    <*> .optional "queryStringParameters" (Json.decodeNameMap Json.decodeText)
    <*> .optional "multiValueQueryStringParameters" (Json.decodeNameMap (Json.decodeList Json.decodeText))
    <*> .optional "body" Json.decodeText <*> .withDefault "isBase64Encoded" Json.decodeBool false
    <*> .optional "requestContext" EventContext.ofJson

def ofJson : Json.Decoder Event := record.decode "InvocationEvent"

/-- Whether the event has the format 2.0. -/
def isVersion2 (e : Event) : Bool := e.version = some "2.0"

end Event

end CatalogGateway
