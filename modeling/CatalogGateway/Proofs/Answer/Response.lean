import CatalogGateway.Proofs.Answer.Problem

/-!
# Responses with documents

A response presents a value if its body is a JSON document that is read as the value.  Responses made from JSON forms and
from problems do (`Response.presents_json`, `Response.presents_problem`).
-/

namespace CatalogGateway.Response

variable {α : Type} {decode : Json.Decoder α} {a : α}

/-- Under a status and a content type, the response has a JSON document for a body that is read as the value. -/
structure Presents (r : Response) (status : Status) (contentType : String) (decode : Json.Decoder α) (a : α) : Prop where
  status : r.status = status
  contentType : r.contentType? = some contentType
  body : ∃ text v, Text.Utf8.decode? r.body = some text ∧ Json.parse? text = some v ∧ decode v = .ok a

theorem exists_of_body {r : Response} {v : Json} (hbody : r.body = v.bytes) (hv : v.Plain Json.maxDepth)
    (hdecode : decode v = .ok a) :
    ∃ text v, Text.Utf8.decode? r.body = some text ∧ Json.parse? text = some v ∧ decode v = .ok a := by
  refine ⟨v.text, v, ?_, Json.parse?_text hv, hdecode⟩
  rw [hbody]
  exact Text.Utf8.decode?_encode _

theorem presents_json {v : Json} (hv : v.Plain Json.maxDepth) (hdecode : decode v = .ok a) (status : Status) :
    (json v status).Presents status "application/json" decode a := by
  refine ⟨rfl, ?_, exists_of_body (by rw [json, withBody]) hv hdecode⟩
  exact HeaderValue.text?_json

theorem presents_problem {p : Problem} {status : Status} (h : p.status = status.code) :
    p.toResponse.Presents status "application/problem+json" Problem.ofJson p := by
  refine ⟨?_, ?_, exists_of_body p.body_toResponse p.plain_toJson p.ofJson_toJson⟩
  · have hcode := Problem.status_toResponse h
    rw [h] at hcode
    exact Status.ext hcode
  · exact HeaderValue.text?_problemJson

end CatalogGateway.Response
