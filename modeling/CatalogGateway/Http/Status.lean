/-!
# Status codes

The status codes of HTTP responses: the numbers of three digits.
-/

namespace CatalogGateway

structure Status where
  code : UInt16
  valid : 100 ≤ code ∧ code ≤ 999
deriving DecidableEq

namespace Status

@[ext] theorem ext {s t : Status} (h : s.code = t.code) : s = t := by
  cases s
  cases t
  cases h
  rfl

def ofCode? (code : UInt16) : Option Status := if h : 100 ≤ code ∧ code ≤ 999 then some ⟨code, h⟩ else none

def ok : Status := ⟨200, by decide⟩
def badRequest : Status := ⟨400, by decide⟩
def notFound : Status := ⟨404, by decide⟩
def methodNotAllowed : Status := ⟨405, by decide⟩
def internalServerError : Status := ⟨500, by decide⟩
def gatewayTimeout : Status := ⟨504, by decide⟩

theorem ofCode?_code (s : Status) : ofCode? s.code = some s := by
  simp [ofCode?, s.valid]

end Status

end CatalogGateway
