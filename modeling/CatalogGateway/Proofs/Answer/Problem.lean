import CatalogGateway.Problem
import CatalogGateway.Proofs.Answer.Envelope
import CatalogGateway.Proofs.Json.Records

/-!
# Problem documents on their way

A problem is read back from its JSON form, and its response arrives as that document, whatever texts it holds
(`problem_arrives`).  It arrives under its own status (`Problem.tells_toResponse`), unless it was read with a status that
no response can have.
-/

namespace CatalogGateway

namespace Problem

variable (p : Problem)

theorem typeUri_withRequestId (requestId : String) : (p.withRequestId requestId).typeUri = p.typeUri := by
  unfold withRequestId
  split <;> rfl

theorem status_withRequestId (requestId : String) : (p.withRequestId requestId).status = p.status := by
  unfold withRequestId
  split <;> rfl

theorem status_notFound (detail requestId : String) : (notFound detail requestId).status = Status.notFound.code :=
  status_withRequestId _ _

theorem detail_withRequestId (requestId : String) : (p.withRequestId requestId).detail = p.detail := by
  unfold withRequestId
  split <;> rfl

theorem instanceId_withRequestId (requestId : String) (h : p.instanceId = none) :
    (p.withRequestId requestId).instanceId = if requestId = "" then none else some requestId := by
  unfold withRequestId
  by_cases hid : requestId = ""
  · rw [if_pos hid, if_pos hid, h]
  · rw [if_neg hid, if_neg hid]

theorem ofJson_toJson : ofJson p.toJson = .ok p := by
  have hsub := ((List.Sublist.refl ["type", "title", "status"]).append
    (Json.names_present "detail" Json.string p.detail)).append
    (Json.names_present "instance" Json.string p.instanceId)
  refine Json.Record.ReadsAs.decode (a := p) ?_ ?_ _
  · refine (((((Json.Record.ReadsAs.requiredText ?_).map Problem.mk).seq (.requiredText ?_)).seq
      (.required (v := .nat p.status.toNat) ?_ (Json.decodeUInt16_nat _))).seq (.nullableText ?_)).seq
      (.nullableText ?_) <;>
      simp [List.lookup_append, List.lookup_cons, Json.lookup_present_self, Json.lookup_present_ne]
  · rw [List.map_append, List.map_append]
    exact hsub.nodup (by decide)

theorem plain_toJson : p.toJson.Plain Json.maxDepth := by
  have hfixed : ∀ m ∈ [("type", Json.string p.typeUri), ("title", .string p.title), ("status", .nat p.status.toNat)],
      m.2.Plain 126 := by
    intro m hm
    simp only [List.mem_cons, List.not_mem_nil, or_false] at hm
    rcases hm with rfl | rfl | rfl
    · exact .string _
    · exact .string _
    · exact .uint16 _
  refine @Json.Plain.object 126 _ ?_
  rw [List.forall_mem_append, List.forall_mem_append]
  exact ⟨⟨hfixed, Json.plain_present .string _ _⟩, Json.plain_present .string _ _⟩

end Problem

namespace Envelope

/-- The envelope carries the problem: its body is a JSON document that is read as the problem, under the status that
the document tells. -/
structure Tells (e : Envelope) (p : Problem) : Prop where
  contentType : e.headers.get? "content-type" = some "application/problem+json"
  plain : e.isBase64Encoded = false
  cookies : e.cookies = []
  body : ∃ v, Json.parse? e.body = some v ∧ Problem.ofJson v = .ok p
  status : e.statusCode = p.status

/-- Whatever other headers are put beside the content type, a problem under its status arrives. -/
theorem tells_of_body {r : Response} {p : Problem} (htype : r.headers.getAll .contentType = [.problemJson])
    (hcookies : r.headers.getAll .setCookie = []) (hbody : r.body = p.toJson.bytes) (hstatus : r.status.code = p.status) :
    (ofResponse r).Tells p := by
  have hdocument := document_of_body htype HeaderValue.text?_problemJson (by decide +kernel) hcookies hbody p.plain_toJson
  exact ⟨hdocument.contentType, hdocument.plain, hdocument.cookies,
    ⟨p.toJson, hdocument.parse p.plain_toJson, p.ofJson_toJson⟩, hstatus⟩

end Envelope

namespace Problem

private theorem getAll_toResponse (p : Problem) :
    p.toResponse.headers.getAll .contentType = [.problemJson] ∧ p.toResponse.headers.getAll .setCookie = [] := by
  constructor
  · rfl
  · rfl

theorem body_toResponse (p : Problem) : p.toResponse.body = p.toJson.bytes := by
  rw [toResponse, Response.withBody]

theorem status_toResponse {p : Problem} {status : Status} (h : p.status = status.code) :
    p.toResponse.status.code = p.status := by
  show ((Status.ofCode? p.status).getD .internalServerError).code = p.status
  rw [h, Status.ofCode?_code]
  rfl

theorem tells_toResponse {p : Problem} {status : Status} (h : p.status = status.code) :
    (Envelope.ofResponse p.toResponse).Tells p := by
  obtain ⟨htype, hcookies⟩ := p.getAll_toResponse
  exact Envelope.tells_of_body htype hcookies p.body_toResponse (status_toResponse h)

/-- The document arrives whatever status it tells. -/
theorem document_toResponse (p : Problem) :
    (Envelope.ofResponse p.toResponse).Document "application/problem+json" p.toJson := by
  obtain ⟨htype, hcookies⟩ := p.getAll_toResponse
  exact Envelope.document_of_body htype HeaderValue.text?_problemJson (by decide +kernel) hcookies p.body_toResponse
    p.plain_toJson

/-- A status that no response can have is sent as an internal error. -/
theorem code_toResponse (p : Problem) :
    p.toResponse.status.code = if 100 ≤ p.status ∧ p.status ≤ 999 then p.status else 500 := by
  show ((Status.ofCode? p.status).getD .internalServerError).code = _
  unfold Status.ofCode?
  split_ifs <;> rfl

/-- A header beside the content type does not get in the way. -/
theorem tells_of_allow {p : Problem} {status : Status} (h : p.status = status.code) {r : Response} {v : HeaderValue}
    (hheaders : r.headers = p.toResponse.headers.set .allow v) (hbody : r.body = p.toResponse.body)
    (hstatus : r.status = p.toResponse.status) : (Envelope.ofResponse r).Tells p := by
  obtain ⟨htype, hcookies⟩ := p.getAll_toResponse
  have hset : ∀ other, other ≠ HeaderName.allow → r.headers.getAll other = p.toResponse.headers.getAll other := by
    intro other hne
    rw [hheaders, Headers.getAll_set_ne _ hne]
  refine Envelope.tells_of_body ?_ ?_ ?_ ?_
  · rw [hset _ (by decide), htype]
  · rw [hset _ (by decide), hcookies]
  · rw [hbody, body_toResponse]
  · rw [hstatus, status_toResponse h]

/-- The problems that are built: in one of the usual ways, and then given other details and identifiers. -/
inductive Built : Problem → Prop where
  | ofStatus (typeUri title : String) (status : Status) : Built (.ofStatus typeUri title status)
  | badRequest (detail requestId : String) : Built (.badRequest detail requestId)
  | notFound (detail requestId : String) : Built (.notFound detail requestId)
  | methodNotAllowed (detail requestId : String) : Built (.methodNotAllowed detail requestId)
  | internalError (requestId : String) : Built (.internalError requestId)
  | timeout (requestId : String) : Built (.timeout requestId)
  | withDetail {p : Problem} (h : Built p) (detail : String) : Built (p.withDetail detail)
  | withRequestId {p : Problem} (h : Built p) (requestId : String) : Built (p.withRequestId requestId)

/-- A problem that is built has a status that a response can have. -/
theorem Built.exists_status {p : Problem} (h : p.Built) : ∃ status : Status, p.status = status.code := by
  induction h with
  | ofStatus typeUri title status => exact ⟨status, rfl⟩
  | badRequest detail requestId => exact ⟨.badRequest, status_withRequestId _ requestId⟩
  | notFound detail requestId => exact ⟨.notFound, status_withRequestId _ requestId⟩
  | methodNotAllowed detail requestId => exact ⟨.methodNotAllowed, status_withRequestId _ requestId⟩
  | internalError requestId => exact ⟨.internalServerError, status_withRequestId _ requestId⟩
  | timeout requestId => exact ⟨.gatewayTimeout, status_withRequestId _ requestId⟩
  | withDetail h detail ih => exact ih
  | withRequestId h requestId ih => rwa [status_withRequestId]

end Problem

/-- The envelope brings the problem in full.  It has the status of the problem if a response can have that, as it can
where the problem was built, and otherwise that of an internal error. -/
structure Envelope.Brings (e : Envelope) (p : Problem) : Prop where
  plain : e.isBase64Encoded = false
  contentType : e.headers.get? "content-type" = some "application/problem+json"
  body : ∃ v, Json.parse? e.body = some v ∧ Problem.ofJson v = .ok p
  status : 100 ≤ p.status ∧ p.status ≤ 999 → e.statusCode = p.status
  stray : ¬ (100 ≤ p.status ∧ p.status ≤ 999) → e.statusCode = 500
  built : p.Built → e.statusCode = p.status

/-- Every problem arrives, whether it was built or read, and whatever texts it holds. -/
theorem problem_arrives (p : Problem) : (Envelope.ofResponse p.toResponse).Brings p := by
  have hdocument := p.document_toResponse
  have hcode : (Envelope.ofResponse p.toResponse).statusCode = _ := p.code_toResponse
  constructor
  case plain => exact hdocument.plain
  case contentType => exact hdocument.contentType
  case body => exact ⟨p.toJson, hdocument.parse p.plain_toJson, p.ofJson_toJson⟩
  case status =>
    intro h
    rw [hcode, if_pos h]
  case stray =>
    intro h
    rw [hcode, if_neg h]
  case built =>
    intro h
    obtain ⟨status, hstatus⟩ := h.exists_status
    rw [hcode, hstatus, if_pos status.valid]

/-- A problem that was read can tell another status than its envelope. -/
theorem not_every_status_kept : ∃ p, Problem.ofJson (.object [("type", .string "/problems/strange"),
      ("title", .string "Strange"), ("status", .nat 42)]) = .ok p ∧
    p.status = 42 ∧ (Envelope.ofResponse p.toResponse).statusCode = 500 := by
  refine ⟨{ typeUri := "/problems/strange", title := "Strange", status := 42 }, rfl, rfl, ?_⟩
  exact Problem.code_toResponse _

end CatalogGateway
