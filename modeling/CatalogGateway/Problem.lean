import CatalogGateway.Http.Response
import CatalogGateway.Json.Decode

/-!
# Problem documents

The JSON documents that describe failures to the caller: a type, a title, a status, and possibly a detail and the
identifier of the occurrence.
-/

namespace CatalogGateway

structure Problem where
  typeUri : String
  title : String
  status : UInt16
  detail : Option String := none
  /-- The identifier of the occurrence. -/
  instanceId : Option String := none
deriving DecidableEq, Repr

namespace Problem

/-- A problem without detail and identifier. -/
def ofStatus (typeUri title : String) (status : Status) : Problem := { typeUri, title, status := status.code }

def withDetail (p : Problem) (detail : String) : Problem := { p with detail := some detail }

/-- The problem with the identifier of a request; an empty one is left out. -/
def withRequestId (p : Problem) (requestId : String) : Problem :=
  if requestId = "" then p else { p with instanceId := some requestId }

/-- The request could not be read. -/
def badRequest (detail requestId : String) : Problem :=
  ofStatus "/problems/invalid-request" "Invalid Request" .badRequest |>.withDetail detail |>.withRequestId requestId

/-- There is nothing at the path of the request. -/
def notFound (detail requestId : String) : Problem :=
  ofStatus "/problems/not-found" "Not Found" .notFound |>.withDetail detail |>.withRequestId requestId

/-- The path of the request has no such method. -/
def methodNotAllowed (detail requestId : String) : Problem :=
  ofStatus "/problems/method-not-allowed" "Method Not Allowed" .methodNotAllowed
    |>.withDetail detail |>.withRequestId requestId

/-- The request could not be handled; why stays inside. -/
def internalError (requestId : String) : Problem :=
  ofStatus "/problems/internal-error" "Internal Error" .internalServerError
    |>.withDetail "An internal error occurred while handling the request" |>.withRequestId requestId

/-- The request could not be handled in time. -/
def timeout (requestId : String) : Problem :=
  ofStatus "/problems/timeout" "Request Timeout" .gatewayTimeout
    |>.withDetail "The request could not be completed before the invocation deadline" |>.withRequestId requestId

def message (p : Problem) : String := p.title ++ ": " ++ p.detail.getD ""

/-- The problem as a JSON object, without the members that it does not have. -/
def toJson (p : Problem) : Json :=
  .object <| [("type", .string p.typeUri), ("title", .string p.title), ("status", .nat p.status.toNat)] ++
    Json.present "detail" .string p.detail ++ Json.present "instance" .string p.instanceId

def record : Json.Record Problem :=
  Problem.mk <$> .required "type" Json.decodeText <*> .required "title" Json.decodeText
    <*> .required "status" Json.decodeUInt16 <*> .nullable "detail" Json.decodeText
    <*> .nullable "instance" Json.decodeText

def ofJson : Json.Decoder Problem := record.decode "ProblemDetails"

/-- The response that carries the problem.  A status that no response can have is sent as an internal error. -/
def toResponse (p : Problem) : Response :=
  ({ status := (Status.ofCode? p.status).getD .internalServerError } : Response)
    |>.withHeader .contentType .problemJson |>.withBody p.toJson.bytes

end Problem

end CatalogGateway
