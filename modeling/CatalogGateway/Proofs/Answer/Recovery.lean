import CatalogGateway.Proofs.Answer.Problem
import CatalogGateway.Proofs.Entrypoint.Invocation

/-!
# Failures as problem documents

With a context, an invocation may run into five kinds of trouble and is answered all the same (`Entrypoint.RunsInto`).
Whatever the texts in it, the answer is a problem document that tells the kind of trouble and names the invocation
(`invoke_tells_trouble`).
-/

namespace CatalogGateway

/-- What may go wrong with an invocation that has a context. -/
inductive Trouble where
  | malformed (error : AdaptError)
  | unmatched (method : Method) (path : String)
  | wrongMethod (method : Method) (path : String) (allowed : List Method)
  /-- The handler gave up or crashed. -/
  | handlerFailed
  | overdue

namespace Trouble

def typeUri : Trouble → String
  | malformed _ => "/problems/invalid-request"
  | unmatched .. => "/problems/not-found"
  | wrongMethod .. => "/problems/method-not-allowed"
  | handlerFailed => "/problems/internal-error"
  | overdue => "/problems/timeout"

def status : Trouble → UInt16
  | malformed _ => 400
  | unmatched .. => 404
  | wrongMethod .. => 405
  | handlerFailed => 500
  | overdue => 504

/-- What the caller is told: the whole of a mistake of its own, and nothing of what went wrong inside. -/
def detail : Trouble → String
  | malformed error => "malformed invocation event: " ++ error.reason
  | unmatched method path => "no route matches " ++ method.text ++ " " ++ path
  | wrongMethod method path _ => "method " ++ method.text ++ " is not allowed for " ++ path
  | handlerFailed => "An internal error occurred while handling the request"
  | overdue => "The request could not be completed before the invocation deadline"

def problem (requestId : String) : Trouble → Problem
  | malformed error => .badRequest error.message requestId
  | unmatched method path => .notFound (DispatchError.notFound method path).message requestId
  | wrongMethod method path allowed =>
    .methodNotAllowed (DispatchError.methodNotAllowed method path allowed).message requestId
  | handlerFailed => .internalError requestId
  | overdue => .timeout requestId

end Trouble

/-- The problem for a trouble tells its kind, and whose it is if the invocation has a name. -/
structure Problem.Reports (p : Problem) (trouble : Trouble) (requestId : String) : Prop where
  typeUri : p.typeUri = trouble.typeUri
  status : p.status = trouble.status
  detail : p.detail = some trouble.detail
  instanceId : p.instanceId = if requestId = "" then none else some requestId

theorem Trouble.reports_problem (trouble : Trouble) (requestId : String) :
    (trouble.problem requestId).Reports trouble requestId := by
  have hbuilt : ∃ p : Problem, trouble.problem requestId = p.withRequestId requestId ∧ p.typeUri = trouble.typeUri ∧
      p.status = trouble.status ∧ p.detail = some trouble.detail ∧ p.instanceId = none := by
    cases trouble with
    | malformed error => exact ⟨_, rfl, rfl, rfl, rfl, rfl⟩
    | unmatched method path => exact ⟨_, rfl, rfl, rfl, rfl, rfl⟩
    | wrongMethod method path allowed => exact ⟨_, rfl, rfl, rfl, rfl, rfl⟩
    | handlerFailed => exact ⟨_, rfl, rfl, rfl, rfl, rfl⟩
    | overdue => exact ⟨_, rfl, rfl, rfl, rfl, rfl⟩
  obtain ⟨p, hp, htype, hstatus, hdetail, hinstance⟩ := hbuilt
  rw [hp]
  constructor
  case typeUri => rw [p.typeUri_withRequestId, htype]
  case status => rw [p.status_withRequestId, hstatus]
  case detail => rw [p.detail_withRequestId, hdetail]
  case instanceId => rw [p.instanceId_withRequestId requestId hinstance]

theorem Trouble.exists_status (trouble : Trouble) (requestId : String) :
    ∃ status : Status, (trouble.problem requestId).status = status.code := by
  rw [(trouble.reports_problem requestId).status]
  cases trouble with
  | malformed error => exact ⟨.badRequest, rfl⟩
  | unmatched method path => exact ⟨.notFound, rfl⟩
  | wrongMethod method path allowed => exact ⟨.methodNotAllowed, rfl⟩
  | handlerFailed => exact ⟨.internalServerError, rfl⟩
  | overdue => exact ⟨.gatewayTimeout, rfl⟩

/-- The methods that the path has do not get in the way of the problem. -/
theorem DispatchError.tells_methodNotAllowed (method : Method) (path : String) (allowed : List Method)
    (requestId : String) :
    (Envelope.ofResponse ((methodNotAllowed method path allowed).toResponse requestId).value).Tells
      (.methodNotAllowed (methodNotAllowed method path allowed).message requestId) := by
  have hstatus : (Problem.methodNotAllowed (methodNotAllowed method path allowed).message requestId).status =
      Status.methodNotAllowed.code := Problem.status_withRequestId _ _
  unfold DispatchError.toResponse
  dsimp only
  have htells := Problem.tells_toResponse hstatus
  have hallow := fun value r => Problem.tells_of_allow (r := r) hstatus (v := value)
  -- from here on it does not matter what the response is
  generalize (Problem.methodNotAllowed _ _).toResponse = response at htells hallow ⊢
  split
  · exact hallow _ _ rfl rfl rfl
  · exact htells

/-! ### Running into trouble -/

/-- What goes wrong with an invocation. -/
inductive Entrypoint.RunsInto (e : Entrypoint) (context : AppContext) (i : Invocation) : Trouble → Prop where
  | malformed {error : AdaptError} (hread : Event.requestOfPayload i.payload e.stripStage = .error (.rejected error)) :
    RunsInto e context i (.malformed error)
  | unmatched {request : Request} (hread : Event.requestOfPayload i.payload e.stripStage = .ok request)
    (hpath : context.routes.matching request.path = []) :
    RunsInto e context i (.unmatched request.method request.path)
  | wrongMethod {request : Request} (hread : Event.requestOfPayload i.payload e.stripStage = .ok request)
    (hpath : context.routes.matching request.path ≠ [])
    (hmethod : ∀ route ∈ context.routes.matching request.path, route.method ≠ request.method) :
    RunsInto e context i (.wrongMethod request.method request.path
      ((context.routes.matching request.path).map (·.method)).eraseDups)
  | handlerFailed {request : Request} {route : Route} {params : Params}
    (hread : Event.requestOfPayload i.payload e.stripStage = .ok request)
    (hroute : context.routes.resolve request.method request.path = .ok (route, params))
    (hintime : ¬ e.Overruns i (route.handler ⟨request, params, e.phaseAt .handling i⟩).duration)
    (hresult : ∀ response, (route.handler ⟨request, params, e.phaseAt .handling i⟩).result ≠ .response response) :
    RunsInto e context i .handlerFailed
  | overdue {request : Request} {route : Route} {params : Params}
    (hread : Event.requestOfPayload i.payload e.stripStage = .ok request)
    (hroute : context.routes.resolve request.method request.path = .ok (route, params))
    (hoverrun : e.Overruns i (route.handler ⟨request, params, e.phaseAt .handling i⟩).duration) :
    RunsInto e context i .overdue

namespace Entrypoint

variable {e : Entrypoint} {context : AppContext} {i : Invocation} {request : Request}

theorem value_handle_of_unroutable {error : DispatchError}
    (hread : Event.requestOfPayload i.payload e.stripStage = .ok request)
    (hresolve : context.routes.resolve request.method request.path = .error error) :
    (e.handle context .handling i).value = .ok (error.toResponse i.requestId).value := by
  have hnotime : ¬ e.Overruns i (context.routes.dispatchDuring request (e.phaseAt .handling i)).duration := by
    rw [RouteTable.duration_dispatchDuring_of_error hresolve]
    exact not_overruns_zero
  rw [value_handle_of_ok hread, value_answer_of_error hnotime (RouteTable.result_dispatchDuring_of_error hresolve _)]

/-- What the handler comes to if it gives no response: why is not part of the answer. -/
theorem exists_handlerFailed (route : Route) {result : HandlerResult} (h : ∀ response, result ≠ .response response) :
    ∃ cause, route.meaning result = .error (.handlerFailed cause) := by
  cases result with
  | response r => exact absurd rfl (h r)
  | failure cause => exact ⟨cause, rfl⟩
  | crash message => exact ⟨_, rfl⟩

/-- A handler that fails in time is answered for without its cause. -/
theorem value_handle_of_failing {route : Route} {params : Params}
    (hread : Event.requestOfPayload i.payload e.stripStage = .ok request)
    (hroute : context.routes.resolve request.method request.path = .ok (route, params))
    (hintime : ¬ e.Overruns i (route.handler ⟨request, params, e.phaseAt .handling i⟩).duration)
    (hresult : ∀ response, (route.handler ⟨request, params, e.phaseAt .handling i⟩).result ≠ .response response) :
    (e.handle context .handling i).value = .ok (Problem.internalError i.requestId).toResponse := by
  obtain ⟨cause, hcause⟩ := exists_handlerFailed route hresult
  have hduration := RouteTable.duration_dispatchDuring_of_ok hroute (e.phaseAt .handling i)
  have hfailed := RouteTable.result_dispatchDuring_of_ok hroute (e.phaseAt .handling i)
  rw [hcause] at hfailed
  rw [value_handle_of_ok hread, value_answer_of_error (hduration ▸ hintime) hfailed]
  rfl

/-- The response to an invocation in trouble arrives as the problem. -/
theorem RunsInto.exists_response {trouble : Trouble} (h : e.RunsInto context i trouble) :
    ∃ response, (e.handle context .handling i).value = .ok response ∧
      (Envelope.ofResponse response).Tells (trouble.problem i.requestId) := by
  obtain ⟨status, hstatus⟩ := trouble.exists_status i.requestId
  have htells := Problem.tells_toResponse hstatus
  cases h with
  | malformed hread => exact ⟨_, value_handle_of_rejected hread, htells⟩
  | unmatched hread hpath =>
    exact ⟨_, value_handle_of_unroutable hread (RouteTable.resolve_eq_notFound _ _ _ hpath), htells⟩
  | wrongMethod hread hpath hmethod =>
    exact ⟨_, value_handle_of_unroutable hread (RouteTable.resolve_eq_methodNotAllowed _ _ _ hpath hmethod),
      DispatchError.tells_methodNotAllowed _ _ _ _⟩
  | handlerFailed hread hroute hintime hresult =>
    exact ⟨_, value_handle_of_failing hread hroute hintime hresult, htells⟩
  | overdue hread hroute hoverrun =>
    have hduration := RouteTable.duration_dispatchDuring_of_ok hroute (e.phaseAt .handling i)
    refine ⟨_, value_handle_of_ok hread, ?_⟩
    rw [value_answer_of_overruns (hduration ▸ hoverrun)]
    exact htells

end Entrypoint

/-- An invocation that runs into trouble is answered with a problem document that tells so. -/
theorem invoke_tells_trouble (e : Entrypoint) (factory : FactoryRun AppContext) (s : Instance) (i : Invocation)
    (context : AppContext) (trouble : Trouble) (hc : s.Provides factory context) (h : e.RunsInto context i trouble) :
    ∃ envelope p, (e.invoke factory s i).value.1 = .answered envelope ∧ envelope.Tells p ∧
      p.Reports trouble i.requestId := by
  obtain ⟨response, hhandle, htells⟩ := h.exists_response
  obtain ⟨made, cache, hget, rfl, -⟩ := hc.getOrInit
  refine ⟨Envelope.ofResponse response, trouble.problem i.requestId, ?_, htells, trouble.reports_problem _⟩
  rw [Entrypoint.value_invoke_of_response hget hhandle]

namespace Sample

def eventless : Invocation := { payload := .null, requestId := "eventless" }

def eventlessError : AdaptError := .undecodable (.invalidType .null "struct InvocationEvent")

theorem runsInto_eventless (context : AppContext) :
    ({} : Entrypoint).RunsInto context eventless (.malformed eventlessError) :=
  .malformed rfl

end Sample

/-- At its cold start an instance tells that there is no event. -/
theorem invoke_tells_trouble_eventless :
    Instance.Provides {} ⟨.ready Sample.slowContext, []⟩ Sample.slowContext ∧
    ({} : Entrypoint).RunsInto Sample.slowContext Sample.eventless (.malformed Sample.eventlessError) ∧
    ∃ envelope p,
      (({} : Entrypoint).invoke ⟨.ready Sample.slowContext, []⟩ {} Sample.eventless).value.1 = .answered envelope ∧
      envelope.Tells p ∧ envelope.statusCode = 400 ∧ p.instanceId = some "eventless" := by
  have hc : Instance.Provides {} ⟨.ready Sample.slowContext, []⟩ Sample.slowContext := .inr ⟨rfl, rfl⟩
  have htrouble := Sample.runsInto_eventless Sample.slowContext
  obtain ⟨envelope, p, hanswer, htells, hreports⟩ := invoke_tells_trouble {} ⟨.ready Sample.slowContext, []⟩ {}
    Sample.eventless Sample.slowContext _ hc htrouble
  refine ⟨hc, htrouble, envelope, p, hanswer, htells, ?_, hreports.instanceId⟩
  rw [htells.status, hreports.status]
  rfl

end CatalogGateway
