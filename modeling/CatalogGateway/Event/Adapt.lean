import CatalogGateway.Encoding.Base64
import CatalogGateway.Encoding.Percent
import CatalogGateway.Event.Basic
import CatalogGateway.Http.Request
import CatalogGateway.Text.Blank

/-!
# Requests from events

The request that an event hands over.  The two formats keep method, path, headers, cookies, query and source address in
different members; where both are present, the first in a fixed order counts.  An event that lacks a method or a path, or
holds what no request can hold, is rejected with the first fault found, in the order method, path, headers, body.
-/

namespace CatalogGateway

inductive AdaptError where
  | undecodable (error : Json.DecodeError)
  | missingMethod
  | invalidMethod (text : String)
  | missingPath
  | relativePath (path : String)
  | pathNotText (path : String)
  | invalidHeaderName (name : String)
  | invalidHeaderValue (name : String)
  | invalidBody (error : Base64.DecodeError)

namespace AdaptError

def reason : AdaptError → String
  | undecodable error => "invalid event payload: " ++ error.message
  | missingMethod => "missing HTTP method"
  | invalidMethod text => "invalid HTTP method '" ++ text ++ "'"
  | missingPath => "missing request path"
  | relativePath path => "request path must start with '/': " ++ path
  | pathNotText path => "request path is not valid UTF-8: " ++ path
  | invalidHeaderName name => "invalid header name '" ++ name ++ "'"
  | invalidHeaderValue name => "invalid value for header '" ++ name ++ "'"
  | invalidBody error => "invalid base64 body: " ++ error.message

/-- The sentence for an event that is rejected for a reason. -/
def messageFor (reason : String) : String := "malformed invocation event: " ++ reason

def message (e : AdaptError) : String := messageFor e.reason

end AdaptError

/-- Why there is no request from an event. -/
inductive AdaptFailure where
  | rejected (error : AdaptError)
  /-- The event has more header names than a header table can be laid out for, and its reading is broken off. -/
  | tooManyHeaders

/-- The text with which the reading of an event with too many header names is broken off. -/
def tooManyHeadersMessage : String := "size overflows MAX_SIZE: MaxSizeReached"

/-- The least power of two that is not below a number. -/
def powerOfTwoFrom (n : Nat) : Nat := if n ≤ 1 then 1 else Nat.pow 2 ((n - 1).log2 + 1)

/-- The number of slots of a header table for a number of names: a third more, rounded up to a power of two. -/
def headerSlots (names : Nat) : Nat := powerOfTwoFrom (names + names / 3)

def maxHeaderSlots : Nat := 32768

/-- The values of each name, the names in the order in which they first occur. -/
abbrev MergedHeaders := List (String × List String)

def addValues (name : String) (values : List String) : MergedHeaders → MergedHeaders
  | [] => [(name, values)]
  | (n, vs) :: rest => if n = name then (n, vs ++ values) :: rest else (n, vs) :: addValues name values rest

/-- The path without the stage at its front.  The default stage is not part of paths, and neither is the start of a
longer segment the stage. -/
def stripStage (stage path : String) : String :=
  if stage = "" ∨ stage = "$default" then path
  else
    match ('/' :: stage.toList).isPrefixOf? path.toList with
    | some [] => "/"
    | some ('/' :: rest) => String.ofList ('/' :: rest)
    | _ => path

namespace Event

def methodText? (e : Event) : Option String :=
  (e.requestContext.bind fun c => c.http.bind (·.method)) <|> e.httpMethod <|> e.requestContext.bind (·.httpMethod)

/-- The method of the request, in capital letters. -/
def method (e : Event) : Except AdaptFailure Method :=
  match e.methodText?.map Text.trim with
  | none | some "" => .error (.rejected .missingMethod)
  | some text =>
    match Method.ofText? (Text.uppercase text) with
    | some m => .ok m
    | none => .error (.rejected (.invalidMethod text))

def pathText? (e : Event) : Option String :=
  e.rawPath <|> e.path <|> e.requestContext.bind fun c => c.http.bind (·.path)

/-- The stage that has to be taken off the path. -/
def stageToStrip? (e : Event) (strip : Bool) : Option String :=
  if strip && e.isVersion2 && e.rawPath.isSome then e.requestContext.bind (·.stage) else none

/-- The path of the request: without the stage, and decoded where the format encodes it. -/
def requestPath (e : Event) (strip : Bool) : Except AdaptFailure String :=
  match e.pathText? with
  | none | some "" => .error (.rejected .missingPath)
  | some raw =>
    if raw.toList.head? = some '/' then
      let path := ((e.stageToStrip? strip).map (stripStage · raw)).getD raw
      -- the format 1.0 has decoded the path already
      if e.isVersion2 then
        match Percent.decode? path with
        | some decoded => .ok decoded
        | none => .error (.rejected (.pathNotText raw))
      else .ok path
    else .error (.rejected (.relativePath raw))

/-- The headers that are given with all their values. -/
def multiHeaders (e : Event) : MergedHeaders :=
  (e.multiValueHeaders.getD []).foldl (fun m h => addValues (Text.lowercase h.1) h.2 m) []

/-- All headers: those given with all their values, those of other names that are given with one, and the cookies. -/
def mergedHeaders (e : Event) : MergedHeaders :=
  let multi := e.multiHeaders
  -- a name with several values has a copy of the last one here
  let single := (e.headers.getD []).filter fun h => !(multi.map (·.1)).contains (Text.lowercase h.1)
  let merged := single.foldl (fun m h => addValues (Text.lowercase h.1) [h.2] m) multi
  match e.cookies with
  | none | some [] => merged
  | some cookies => addValues HeaderName.cookie.text cookies merged

def separator (name : String) : String := if name = HeaderName.cookie.text then "; " else ", "

/-- The field that carries the values of a name. -/
def headerField (h : String × List String) : Except AdaptFailure (HeaderName × HeaderValue) :=
  match HeaderName.ofText? h.1 with
  | none => .error (.rejected (.invalidHeaderName h.1))
  | some name =>
    match HeaderValue.ofText? ((separator h.1).intercalate h.2) with
    | none => .error (.rejected (.invalidHeaderValue h.1))
    | some value => .ok (name, value)

/-- The headers of the request: one field for each name. -/
def requestHeaders (e : Event) : Except AdaptFailure Headers :=
  let merged := e.mergedHeaders
  -- the table is laid out before any name is looked at
  if maxHeaderSlots < headerSlots merged.length then .error .tooManyHeaders
  else (merged.mapM headerField).map Headers.mk

def query (e : Event) : NameMap (List String) :=
  match e.multiValueQueryStringParameters with
  | some multi => multi
  | none => (e.queryStringParameters.getD ∅).map ([·])

def requestBody (e : Event) : Except AdaptFailure Bytes :=
  match e.body with
  | none => .ok []
  | some text =>
    if e.isBase64Encoded then
      match Base64.decode (Text.Utf8.encode text) with
      | .ok bytes => .ok bytes
      | .error error => .error (.rejected (.invalidBody error))
    else .ok (Text.Utf8.encode text)

def requestId (e : Event) : String := (e.requestContext.bind (·.requestId)).getD ""

def sourceIp? (e : Event) : Option String :=
  e.requestContext.bind fun c => c.http.bind (·.sourceIp) <|> c.identity.bind (·.sourceIp)

def toRequest (e : Event) (strip : Bool) : Except AdaptFailure Request := do
  let method ← e.method
  let path ← e.requestPath strip
  let headers ← e.requestHeaders
  let body ← e.requestBody
  return { method, path, headers, query := e.query, body, requestId := e.requestId, sourceIp := e.sourceIp? }

def ofPayload (payload : Json) : Except AdaptFailure Event :=
  match ofJson payload with
  | .ok e => .ok e
  | .error error => .error (.rejected (.undecodable error))

/-- The request that the payload of an invocation hands over. -/
def requestOfPayload (payload : Json) (strip : Bool) : Except AdaptFailure Request :=
  ofPayload payload >>= fun e => e.toRequest strip

end Event

end CatalogGateway
