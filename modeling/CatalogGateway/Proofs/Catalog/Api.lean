import CatalogGateway.Proofs.Answer.Response
import CatalogGateway.Proofs.Catalog.Application
import CatalogGateway.Proofs.Catalog.Documents

/-!
# The API of the catalog

Every request for something that the catalog can be asked for gets it (`Endpoint.exists_answered`), every other method on
the same path is refused, and there is nothing else (`catalog_answers`).
-/

namespace CatalogGateway

namespace Catalog

variable (service : String) (settings : CatalogSettings)

/-- What the catalog has to say for an endpoint. -/
def Endpoint.Answered (requestId : String) : Endpoint → Response → Prop
  | configV1, r => r.Presents .ok "application/json" ConfigV1.ofJson ⟨settings.defaultBranch, 2⟩
  | configV2, r => r.Presents .ok "application/json" ConfigV2.ofJson ⟨settings.defaultBranch, 1, 2, 2, "2.1.0"⟩
  | references, r =>
    r.Presents .ok "application/json" References.ofJson
      ⟨settings.references.map fun name => { kind := .branch, name }⟩
  | reference name, r =>
    if name ∈ settings.references then
      r.Presents .ok "application/json" Reference.ofJson { kind := .branch, name }
    else
      r.Presents .notFound "application/problem+json" Problem.ofJson
        (.notFound ("Named reference '" ++ name ++ "' not found") requestId)
  | live, r | ready, r => r.Presents .ok "application/json" Health.ofJson ⟨"ok", service⟩

/-- How the catalog deals with a request. -/
structure Answers (request : Request) (result : Except DispatchError Response) : Prop where
  answered : ∀ endpoint, Endpoint.ofSegments? (pathSegments request.path) = some endpoint → request.method = .get →
    ∃ response, result = .ok response ∧ endpoint.Answered service settings request.requestId response
  refused : ∀ endpoint, Endpoint.ofSegments? (pathSegments request.path) = some endpoint → request.method ≠ .get →
    result = .error (.methodNotAllowed request.method request.path [.get])
  unknown : Endpoint.ofSegments? (pathSegments request.path) = none →
    result = .error (.notFound request.method request.path)
  unfailing : ∀ cause, result ≠ .error (.handlerFailed cause)

variable {service settings}

theorem exists_answered_reference (name : String) (request : Request) (phaseAt : Nat → Phase) :
    ∃ response, (getReference settings ⟨request, ⟨[("ref", name)]⟩, phaseAt⟩).result = .response response ∧
      (Endpoint.reference name).Answered service settings request.requestId response := by
  rw [getReference_eq]
  simp only [Endpoint.Answered]
  by_cases hmem : name ∈ settings.references
  · simp only [if_pos hmem]
    exact ⟨_, rfl, Response.presents_json (Reference.plain_toJson _ _) (Reference.ofJson_toJson _) _⟩
  · simp only [if_neg hmem]
    exact ⟨_, rfl, Response.presents_problem (Problem.status_notFound _ _)⟩

/-- The handler of an endpoint responds with what the catalog has to say for it. -/
theorem Endpoint.exists_answered (endpoint : Endpoint) (request : Request) (phaseAt : Nat → Phase) :
    ∃ response,
      ((endpoint.route service settings).handler ⟨request, endpoint.params, phaseAt⟩).result = .response response ∧
      endpoint.Answered service settings request.requestId response := by
  cases endpoint with
  | configV1 => exact ⟨_, rfl, Response.presents_json (ConfigV1.plain_toJson _) (ConfigV1.ofJson_toJson _) _⟩
  | configV2 => exact ⟨_, rfl, Response.presents_json (ConfigV2.plain_toJson _) (ConfigV2.ofJson_toJson _) _⟩
  | references => exact ⟨_, rfl, Response.presents_json (References.plain_toJson _) (References.ofJson_toJson _) _⟩
  | reference name => exact exists_answered_reference name request phaseAt
  | live => exact ⟨_, rfl, Response.presents_json (Health.plain_toJson _) (Health.ofJson_toJson _) _⟩
  | ready => exact ⟨_, rfl, Response.presents_json (Health.plain_toJson _) (Health.ofJson_toJson _) _⟩

theorem answers_table (service : String) (settings : CatalogSettings) (request : Request) (phaseAt : Nat → Phase) :
    Answers service settings request ((table service settings).dispatchDuring request phaseAt).result := by
  cases hpath : Endpoint.ofSegments? (pathSegments request.path) with
  | none =>
    have hresolve := @resolve_nothing service settings _ hpath request.method
    rw [RouteTable.result_dispatchDuring_of_error hresolve phaseAt]
    constructor
    case answered => intro endpoint hendpoint; cases hpath.symm.trans hendpoint
    case refused => intro endpoint hendpoint; cases hpath.symm.trans hendpoint
    case unknown => exact fun _ => rfl
    case unfailing => nofun
  | some endpoint =>
    by_cases hmethod : request.method = .get
    · obtain ⟨response, hresponse, hanswered⟩ := @endpoint.exists_answered service settings request phaseAt
      have hresolve := @resolve_endpoint service settings _ _ hpath
      rw [← hmethod] at hresolve
      have hresult := RouteTable.result_dispatchDuring_of_ok hresolve phaseAt
      rw [hresult, hresponse]
      constructor
      case answered =>
        intro other hother _
        obtain rfl := Option.some.inj (hpath.symm.trans hother)
        exact ⟨response, rfl, hanswered⟩
      case refused => exact fun _ _ hother => absurd hmethod hother
      case unknown => intro hnone; cases hpath.symm.trans hnone
      case unfailing => nofun
    · have hresolve := @resolve_other_method service settings _ _ hpath _ hmethod
      rw [RouteTable.result_dispatchDuring_of_error hresolve phaseAt]
      constructor
      case answered => exact fun _ _ hget => absurd hget hmethod
      case refused => exact fun _ _ _ => rfl
      case unknown => intro hnone; cases hpath.symm.trans hnone
      case unfailing => nofun

end Catalog

/-- Slashes that follow each other are taken for one. -/
example : Catalog.Endpoint.ofSegments? (pathSegments "/api//v2/trees/feature//x/") = some (.reference "feature/x") :=
  rfl

end CatalogGateway
