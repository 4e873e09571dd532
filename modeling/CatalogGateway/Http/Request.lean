import CatalogGateway.Http.Headers
import CatalogGateway.Http.Method
import CatalogGateway.NameMap

/-!
# Requests

A request as handlers see it, whatever kind of event it arrived in, and the readings of it as text.
-/

namespace CatalogGateway

structure Request where
  method : Method
  path : String
  headers : Headers := {}
  /-- The values of each query parameter. -/
  query : NameMap (List String) := ∅
  body : Bytes := []
  /-- The identifier that the event gives the request, empty if it gives none. -/
  requestId : String := ""
  /-- The address of the caller. -/
  sourceIp : Option String := none
deriving DecidableEq

namespace Request

/-- The value of a header, named in any letter case, if it reads as text. -/
def header? (r : Request) (name : String) : Option String :=
  (HeaderName.ofText? name).bind fun n => (r.headers.get? n).bind HeaderValue.text?

def queryValues (r : Request) (name : String) : List String := (r.query.get? name).getD []

def queryValue? (r : Request) (name : String) : Option String := (r.queryValues name).head?

def bodyText? (r : Request) : Option String := Text.Utf8.decode? r.body

end Request

end CatalogGateway
