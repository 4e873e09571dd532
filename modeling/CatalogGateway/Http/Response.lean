import CatalogGateway.Http.Headers
import CatalogGateway.Http.Status
import CatalogGateway.Json.Printer

/-!
# Responses

A response as handlers give it, and the usual ways to build one.
-/

namespace CatalogGateway

structure Response where
  status : Status := .ok
  headers : Headers := {}
  body : Bytes := []
deriving DecidableEq

namespace Response

def withHeader (r : Response) (name : HeaderName) (value : HeaderValue) : Response :=
  { r with headers := r.headers.append name value }

def withBody (r : Response) (body : Bytes) : Response := { r with body }

def json (value : Json) (status : Status := .ok) : Response :=
  ({ status } : Response).withHeader .contentType .json |>.withBody value.bytes

def text (body : String) : Response :=
  ({} : Response).withHeader .contentType .plainText |>.withBody (Text.Utf8.encode body)

/-- The content type, if it reads as text. -/
def contentType? (r : Response) : Option String := (r.headers.get? .contentType).bind HeaderValue.text?

end Response

end CatalogGateway
