import CatalogGateway.Proofs.Answer.Recovery
import CatalogGateway.Proofs.Route.Alike

/-!
# What is not told about failing handlers

Without a deadline, a request that reaches a handler is answered with the handler's response, or with a problem that
knows the invocation and nothing else (`Entrypoint.value_answer_of_route`).  Contexts whose handlers differ at most in
how they fail can therefore not be told apart from outside (`invoke_hides_failures`).
-/

namespace CatalogGateway

/-- The response of a handler that gave one. -/
def HandlerResult.response? : HandlerResult → Option Response
  | response r => some r
  | failure _ => none
  | crash _ => none

theorem HandlerResult.response?_eq_none {result : HandlerResult} :
    result.response? = none ↔ ∀ r, result ≠ .response r := by
  cases result <;> simp [response?]

/-- Two handlers that differ at most in how they fail: to each call they give the same response, or both give none. -/
def Handler.SameResponses (h h' : Handler) : Prop := ∀ call, (h call).result.response? = (h' call).result.response?

/-- All that a caller gets to see of a handler that failed. -/
def Envelope.ofFailure (requestId : String) : Envelope := ofResponse (Problem.internalError requestId).toResponse

namespace Entrypoint

variable {e : Entrypoint} {context context' : AppContext} {phase : Phase} {i : Invocation} {request : Request}

theorem not_overruns_of_no_deadline (h : i.deadline = 0) (duration : Nat) : ¬ e.Overruns i duration :=
  fun hover => hover.1 h

/-- Without a deadline, what counts of the handler's run is its response. -/
theorem value_answer_of_route {route : Route} {params : Params} (hdeadline : i.deadline = 0)
    (hroute : context.routes.resolve request.method request.path = .ok (route, params)) :
    (e.answer context phase i request).value =
      (route.handler ⟨request, params, e.phaseAt phase i⟩).result.response?.getD
        (Problem.internalError i.requestId).toResponse := by
  have hintime := not_overruns_of_no_deadline (e := e) hdeadline
    (context.routes.dispatchDuring request (e.phaseAt phase i)).duration
  have hresult := RouteTable.result_dispatchDuring_of_ok hroute (e.phaseAt phase i)
  cases hrun : (route.handler ⟨request, params, e.phaseAt phase i⟩).result with
  | response r =>
    rw [hrun] at hresult
    exact value_answer_of_ok hintime hresult
  | failure cause =>
    rw [hrun] at hresult
    exact value_answer_of_error hintime hresult
  | crash message =>
    rw [hrun] at hresult
    exact value_answer_of_error hintime hresult

/-- The handling of an event is the same in both contexts, whether or not the event leads to a handler. -/
theorem value_handle_eq_of_sameResponses (h : context.routes.Alike Handler.SameResponses context'.routes)
    (hdeadline : i.deadline = 0) : (e.handle context' .handling i).value = (e.handle context .handling i).value := by
  cases hread : Event.requestOfPayload i.payload e.stripStage with
  | error failure =>
    cases failure with
    | rejected error => rw [value_handle_of_rejected hread, value_handle_of_rejected hread]
    | tooManyHeaders => rw [value_handle_of_tooManyHeaders hread, value_handle_of_tooManyHeaders hread]
  | ok request =>
    rcases h.resolve request.method request.path with
      ⟨error, herror, herror'⟩ | ⟨route, route', params, hroute, hroute', halike⟩
    · rw [value_handle_of_unroutable hread herror, value_handle_of_unroutable hread herror']
    · rw [value_handle_of_ok hread, value_handle_of_ok hread, value_answer_of_route hdeadline hroute,
        value_answer_of_route hdeadline hroute', halike.handler]

/-- The same handler fails in both contexts. -/
theorem RunsInto.of_sameResponses (h : e.RunsInto context i .handlerFailed)
    (halike : context.routes.Alike Handler.SameResponses context'.routes) (hdeadline : i.deadline = 0) :
    e.RunsInto context' i .handlerFailed := by
  cases h with
  | @handlerFailed request route params hread hroute hintime hresult =>
    rcases halike.resolve request.method request.path with
      ⟨error, herror, -⟩ | ⟨_, route', _, hroute₁, hroute', hsame⟩
    · rw [hroute] at herror
      cases herror
    · rw [hroute] at hroute₁
      cases hroute₁
      refine .handlerFailed hread hroute' (not_overruns_of_no_deadline hdeadline _) ?_
      rw [← HandlerResult.response?_eq_none] at hresult ⊢
      rw [← hsame.handler, hresult]

/-- An invocation whose handler fails in time is answered with what its identifier gives. -/
theorem RunsInto.invoke_of_handlerFailed {factory : FactoryRun AppContext} {s : Instance}
    (h : e.RunsInto context i .handlerFailed) (hc : s.Provides factory context) :
    (e.invoke factory s i).value.1 = .answered (.ofFailure i.requestId) := by
  obtain ⟨cache, -, hinvoke⟩ := exists_value_invoke hc
  cases h with
  | handlerFailed hread hroute hintime hresult =>
    rw [hinvoke, value_handle_of_failing hread hroute hintime hresult]
    rfl

end Entrypoint

/-- Without a deadline, an invocation comes to the same in two contexts whose handlers differ at most in how they fail.
If a handler fails, it does so in both, and the answer is the one that every invocation of that identifier gets in which
a handler fails, whatever the context, the event and the settings. -/
theorem invoke_hides_failures (e : Entrypoint) (factory factory' : FactoryRun AppContext) (s s' : Instance)
    (i : Invocation) (context context' : AppContext) (hc : s.Provides factory context)
    (hc' : s'.Provides factory' context') (halike : context.routes.Alike Handler.SameResponses context'.routes)
    (hdeadline : i.deadline = 0) :
    (e.invoke factory' s' i).value.1 = (e.invoke factory s i).value.1 ∧
    (e.RunsInto context' i .handlerFailed ↔ e.RunsInto context i .handlerFailed) ∧
    (e.RunsInto context i .handlerFailed →
      (e.invoke factory s i).value.1 = .answered (.ofFailure i.requestId) ∧
      ∀ (other : Entrypoint) (f : FactoryRun AppContext) (z : Instance) (j : Invocation) (c : AppContext),
        z.Provides f c → other.RunsInto c j .handlerFailed → j.requestId = i.requestId →
          (other.invoke f z j).value.1 = (e.invoke factory s i).value.1) := by
  refine ⟨?_, ⟨?_, ?_⟩, ?_⟩
  · have hhandle := Entrypoint.value_handle_eq_of_sameResponses (e := e) halike hdeadline
    exact Entrypoint.value_invoke_fst_congr hc hc' hhandle
  · have hback := halike.symm fun _ _ hsame call => (hsame call).symm
    exact fun hfailed => hfailed.of_sameResponses hback hdeadline
  · exact fun hfailed => hfailed.of_sameResponses halike hdeadline
  · intro hfailed
    have hanswer := hfailed.invoke_of_handlerFailed hc
    refine ⟨hanswer, ?_⟩
    intro other f z j c hprovides hother hid
    rw [hother.invoke_of_handlerFailed hprovides, hid, hanswer]

namespace Sample

/-- A context whose only handler comes to a given result. -/
def contextOf (result : HandlerResult) : AppContext :=
  ⟨"catalog", ⟨[⟨.get, ⟨"/slow", [.literal "slow"]⟩, fun _ => { result }⟩]⟩⟩

/-- An invocation that has all the time. -/
def unhurried : Invocation := { hurried with requestId := "unhurried", deadline := 0 }

theorem runsInto_unhurried {result : HandlerResult} (h : ∀ r, result ≠ .response r) :
    ({} : Entrypoint).RunsInto (contextOf result) unhurried .handlerFailed := by
  have hpath : pathSegments "/slow" = ["slow"] := by decide
  have hroute : (contextOf result).routes.resolve slowRequest.method slowRequest.path =
      .ok (⟨.get, ⟨"/slow", [.literal "slow"]⟩, fun _ => { result }⟩, {}) := by
    simp [RouteTable.resolve, RouteTable.scan, contextOf, slowRequest, Scan.visit, Pattern.match?, hpath,
      Pattern.matchSegments]
  exact .handlerFailed requestOfPayload_hurried hroute (Entrypoint.not_overruns_of_no_deadline rfl _) h

end Sample

/-- A handler that gives up, with two causes to tell, and one that crashes leave the same answer. -/
theorem invoke_hides_failures_unhurried :
    let given := Sample.contextOf (.failure ⟨"no such table", ["disk full", "errno 28"]⟩)
    let crashed := Sample.contextOf (.crash (some "index out of bounds"))
    given.routes.Alike Handler.SameResponses crashed.routes ∧ Sample.unhurried.deadline = 0 ∧
    ({} : Entrypoint).RunsInto given Sample.unhurried .handlerFailed ∧
    (({} : Entrypoint).invoke ⟨.ready crashed, []⟩ {} Sample.unhurried).value.1 =
      (({} : Entrypoint).invoke ⟨.ready given, []⟩ {} Sample.unhurried).value.1 ∧
    (({} : Entrypoint).invoke ⟨.ready given, []⟩ {} Sample.unhurried).value.1 = .answered (.ofFailure "unhurried") := by
  intro given crashed
  have halike : given.routes.Alike Handler.SameResponses crashed.routes :=
    .cons ⟨rfl, rfl, fun _ => rfl⟩ .nil
  have hfails : ({} : Entrypoint).RunsInto given Sample.unhurried .handlerFailed := Sample.runsInto_unhurried nofun
  obtain ⟨hsame, -, hanswer⟩ := invoke_hides_failures {} ⟨.ready given, []⟩ ⟨.ready crashed, []⟩ {} {} Sample.unhurried
    given crashed (.inr ⟨rfl, rfl⟩) (.inr ⟨rfl, rfl⟩) halike rfl
  exact ⟨halike, rfl, hfails, hsame, (hanswer hfails).1⟩

end CatalogGateway
