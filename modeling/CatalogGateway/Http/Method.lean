import CatalogGateway.Http.Token

/-!
# Methods

The methods of HTTP requests.  Any token is a method, and methods with different letters are different.
-/

namespace CatalogGateway

/-- A method of a request: any token, its letters as they are. -/
structure Method where
  text : String
  valid : isToken text = true
deriving DecidableEq

namespace Method

@[ext] theorem ext {m n : Method} (h : m.text = n.text) : m = n := by
  cases m
  cases n
  cases h
  rfl

def ofText? (s : String) : Option Method := if h : isToken s = true then some ⟨s, h⟩ else none

def get : Method := ⟨"GET", by decide⟩

end Method

end CatalogGateway
