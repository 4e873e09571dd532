import CatalogGateway.Encoding.Base64
import CatalogGateway.Event.Basic
import CatalogGateway.Http.Response
import CatalogGateway.Text.Blank

/-!
# Response envelopes

The form in which the gateway takes responses back: a JSON object with the headers joined by name, the cookies apart,
and the body as text, or in base64 if it is not text.
-/

namespace CatalogGateway

/-- A response in the form of the gateway. -/
structure Envelope where
  statusCode : UInt16
  headers : NameMap String
  /-- The values of `set-cookie`, which cannot be joined. -/
  cookies : List String := []
  body : String
  isBase64Encoded : Bool
deriving DecidableEq

namespace Envelope

/-- The content types of texts apart from those that a class or an ending shows. -/
def textTypes : List String :=
  ["application/json", "application/xml", "application/javascript", "application/x-www-form-urlencoded"]

/-- The media type of a content type: what stands before its parameters. -/
def mediaType (contentType : String) : String :=
  Text.lowercase (Text.trim (String.ofList (contentType.toList.takeWhile (· ≠ ';'))))

/-- Whether bodies of a content type are texts. -/
def isTextual (contentType : String) : Bool :=
  let type := mediaType contentType
  "text/".toList.isPrefixOf type.toList || "+json".toList.isSuffixOf type.toList ||
    "+xml".toList.isSuffixOf type.toList || textTypes.contains type

/-- The body as text with its flag for base64. -/
def encodeBody (textual : Bool) (body : Bytes) : String × Bool :=
  if body = [] then ("", false)
  else
    match textual, Text.Utf8.decode? body with
    | true, some text => (text, false)
    | _, _ => (Base64.encodeText body, true)

def headerTexts (h : Headers) (name : HeaderName) : List String :=
  (h.getAll name).map fun v => Text.Utf8.decodeLenient v.bytes

def ofResponse (r : Response) : Envelope :=
  let names := r.headers.names.filter (· ≠ .setCookie)
  let body := encodeBody (r.contentType?.any isTextual) r.body
  { statusCode := r.status.code
    headers := NameMap.ofList (names.map fun n => (n.text, ", ".intercalate (headerTexts r.headers n)))
    cookies := headerTexts r.headers .setCookie
    body := body.1
    isBase64Encoded := body.2 }

/-- The envelope as a JSON object, without the cookies if there are none. -/
def toJson (e : Envelope) : Json :=
  .object <| [("statusCode", .nat e.statusCode.toNat), ("headers", Json.ofEntries .string e.headers.entries)] ++
    (if e.cookies = [] then [] else [("cookies", Json.strings e.cookies)]) ++
    [("body", .string e.body), ("isBase64Encoded", .bool e.isBase64Encoded)]

def record : Json.Record Envelope :=
  Envelope.mk <$> .required "statusCode" Json.decodeUInt16
    <*> .required "headers" (Json.decodeNameMap Json.decodeText)
    <*> .withDefault "cookies" (Json.decodeList Json.decodeText) []
    <*> .required "body" Json.decodeText <*> .required "isBase64Encoded" Json.decodeBool

def ofJson : Json.Decoder Envelope := record.decode "ResponseEnvelope"

end Envelope

end CatalogGateway
