import CatalogGateway.Proofs.Answer.Recovery
import CatalogGateway.Proofs.Session.Lifecycle

/-!
# What the log tells of a session

Three kinds of entries tell how invocations end: completions, failures for the lack of a context, and failures of
handlers.  `reports` picks them from a log.  Those of an invocation come from its stages: the cache and the dispatch
have none, an answer tells what the handler failed by (`Entrypoint.tellsFailure_handle`), and the invocation itself adds
how it ended (`Entrypoint.recounted_invoke`).  So the log of a session tells the truth about each of its invocations,
and there is one cold start among the completed ones (`session_recounted`).
-/

namespace CatalogGateway

/-- The messages of the entries that tell how an invocation ended, or why its handler gave no response. -/
def reportMessages : List String :=
  ["invocation complete", "cold start failed, invocation aborted", "route handler failed"]

/-- The entries of a log that tell how invocations ended, and why their handlers gave no response. -/
def reports (log : List LogEntry) : List LogEntry := log.filter (·.message ∈ reportMessages)

/-! ### The reports of the stages -/

theorem reports_append (l l' : List LogEntry) : reports (l ++ l') = reports l ++ reports l' := List.filter_append _ _

/-- The application reports nothing of the kind. -/
theorem message_app_not_mem (recorded : AppEntry) : (LogEntry.app recorded).message ∉ reportMessages := by
  cases recorded <;> simp [LogEntry.message, AppEntry.message, reportMessages]

theorem reports_map_app (log : List AppEntry) : reports (log.map .app) = [] := by
  refine List.filter_eq_nil_iff.2 fun entry hentry => ?_
  obtain ⟨recorded, -, rfl⟩ := List.mem_map.1 hentry
  exact fun hmem => message_app_not_mem recorded (of_decide_eq_true hmem)

theorem Cache.reports_getOrInit {α : Type} (c : Cache α) (factory : FactoryRun α) :
    reports (c.getOrInit factory).log = [] := by
  cases hcell : c.cell with
  | some made =>
    rw [getOrInit_of_some hcell]
    rfl
  | none =>
    cases hf : factory.value <;>
      simp only [getOrInit, hcell, hf, Logged.log_bind, Logged.log_mapLog, Logged.value_mapLog, reports_append,
        reports_map_app] <;> rfl

theorem RouteTable.reports_dispatchDuring (t : RouteTable) (request : Request) (phaseAt : Nat → Phase) :
    reports (t.dispatchDuring request phaseAt).log = [] := by
  refine List.filter_eq_nil_iff.2 fun entry hentry => ?_
  rcases mem_log_dispatchDuring hentry with ⟨method, path, pattern, rfl⟩ | ⟨recorded, rfl⟩
  · simp [LogEntry.message, reportMessages]
  · exact fun hmem => message_app_not_mem recorded (of_decide_eq_true hmem)

/-! ### Why handlers fail -/

/-- The event of an invocation is routed to a handler, which is done in time and comes to a result. -/
inductive Entrypoint.Finishes (e : Entrypoint) (context : AppContext) (i : Invocation) :
    Route → HandlerResult → Prop where
  | intro {request : Request} {route : Route} {params : Params}
    (hread : Event.requestOfPayload i.payload e.stripStage = .ok request)
    (hroute : context.routes.resolve request.method request.path = .ok (route, params))
    (hintime : ¬ e.Overruns i (route.handler ⟨request, params, e.phaseAt .handling i⟩).duration) :
    Finishes e context i route (route.handler ⟨request, params, e.phaseAt .handling i⟩).result

/-- What the handler of an invocation fails by, in time: an error with its causes, or a crash, which is told with the route
and the text that it came with. -/
inductive Entrypoint.FailsBy (e : Entrypoint) (context : AppContext) (i : Invocation) : ErrorChain → Prop where
  | failure {route : Route} {cause : ErrorChain} (h : e.Finishes context i route (.failure cause)) :
    FailsBy e context i cause
  | crash {route : Route} {message : Option String} (h : e.Finishes context i route (.crash message)) :
    FailsBy e context i ⟨"handler for " ++ route.method.text ++ " " ++ route.pattern.text ++ " panicked: " ++
      message.getD "non-string panic payload", []⟩

/-- What a log is to tell of the handler of an invocation: what it failed by, with all the errors that led to it, or
nothing if it did not fail. -/
inductive Entrypoint.TellsFailure (e : Entrypoint) (context : AppContext) (i : Invocation) : List LogEntry → Prop where
  | failed {message : String} {causes : List String} (h : e.FailsBy context i ⟨message, causes⟩) :
    TellsFailure e context i [.handlerFailed i.requestId (": ".intercalate (message :: causes))]
  | notFailed (h : ∀ cause, ¬ e.FailsBy context i cause) : TellsFailure e context i []

theorem RouteTable.resolve_ne_handlerFailed (t : RouteTable) (method : Method) (path : String) (cause : ErrorChain) :
    t.resolve method path ≠ .error (.handlerFailed cause) := by
  unfold resolve
  dsimp only
  split
  · nofun
  · split
    · nofun
    · nofun

namespace Entrypoint

variable {e : Entrypoint} {context : AppContext} {i : Invocation} {request : Request}

/-- A handler fails by what its dispatch fails by. -/
theorem failsBy_iff {cause : ErrorChain} : e.FailsBy context i cause ↔
    ∃ request, Event.requestOfPayload i.payload e.stripStage = .ok request ∧
      ¬ e.Overruns i (e.dispatch context i request).duration ∧
      (e.dispatch context i request).result = .error (.handlerFailed cause) := by
  constructor
  · intro h
    obtain ⟨route, result, hfinishes, hmeaning⟩ :
        ∃ route result, e.Finishes context i route result ∧ route.meaning result = .error (.handlerFailed cause) := by
      cases h with
      | failure h => exact ⟨_, _, h, rfl⟩
      | crash h => exact ⟨_, _, h, rfl⟩
    obtain ⟨hread, hroute, hintime⟩ := hfinishes
    refine ⟨_, hread, ?_, ?_⟩
    · rwa [dispatch, RouteTable.duration_dispatchDuring_of_ok hroute]
    · rw [dispatch, RouteTable.result_dispatchDuring_of_ok hroute, hmeaning]
  · rintro ⟨request, hread, hintime, hresult⟩
    cases hroute : context.routes.resolve request.method request.path with
    | error error =>
      rw [dispatch, RouteTable.result_dispatchDuring_of_error hroute] at hresult
      rw [Except.error.inj hresult] at hroute
      exact absurd hroute (RouteTable.resolve_ne_handlerFailed _ _ _ _)
    | ok hit =>
      obtain ⟨route, params⟩ := hit
      rw [dispatch, RouteTable.duration_dispatchDuring_of_ok hroute] at hintime
      rw [dispatch, RouteTable.result_dispatchDuring_of_ok hroute] at hresult
      have hfinishes := Finishes.intro hread hroute hintime
      cases hr : (route.handler ⟨request, params, e.phaseAt .handling i⟩).result with
      | response response =>
        rw [hr] at hresult
        cases hresult
      | failure cause' =>
        rw [hr] at hresult hfinishes
        cases hresult
        exact .failure hfinishes
      | crash message =>
        rw [hr] at hresult hfinishes
        cases hresult
        exact .crash hfinishes

theorem reports_answer_of_overruns (h : e.Overruns i (e.dispatch context i request).duration) :
    reports (e.answer context .handling i request).log = [] := by
  obtain ⟨budget, -, -, hanswer⟩ := answer_of_overruns h
  rw [hanswer, reports_append, RouteTable.reports_dispatchDuring]
  rfl

theorem reports_answer_of_ok {response : Response} (h : ¬ e.Overruns i (e.dispatch context i request).duration)
    (hr : (e.dispatch context i request).result = .ok response) :
    reports (e.answer context .handling i request).log = [] := by
  rw [dispatch] at hr
  rw [answer_of_not_overruns h, hr, Logged.log_bind, reports_append, RouteTable.reports_dispatchDuring]
  rfl

theorem reports_answer_of_error {error : DispatchError} (h : ¬ e.Overruns i (e.dispatch context i request).duration)
    (hr : (e.dispatch context i request).result = .error error) :
    reports (e.answer context .handling i request).log = reports (error.toResponse i.requestId).log := by
  rw [dispatch] at hr
  rw [answer_of_not_overruns h, hr, Logged.log_bind, reports_append, RouteTable.reports_dispatchDuring]
  rfl

/-- The response to a request leaves a report of what the handler failed by. -/
theorem tellsFailure_answer (hread : Event.requestOfPayload i.payload e.stripStage = .ok request) :
    e.TellsFailure context i (reports (e.answer context .handling i request).log) := by
  -- there is nothing to tell unless the dispatch is done in time and comes to the failure of its handler
  have hnone : (∀ cause, ¬ e.Overruns i (e.dispatch context i request).duration →
      (e.dispatch context i request).result ≠ .error (.handlerFailed cause)) → e.TellsFailure context i [] := by
    intro h
    refine .notFailed fun cause hfails => ?_
    obtain ⟨request', hread', hintime, hresult⟩ := failsBy_iff.1 hfails
    rw [hread] at hread'
    obtain rfl := Except.ok.inj hread'
    exact h cause hintime hresult
  by_cases hover : e.Overruns i (e.dispatch context i request).duration
  · rw [reports_answer_of_overruns hover]
    exact hnone fun _ hintime => absurd hover hintime
  · cases hr : (e.dispatch context i request).result with
    | ok response =>
      rw [reports_answer_of_ok hover hr]
      exact hnone fun _ _ => by simp [hr]
    | error error =>
      rw [reports_answer_of_error hover hr]
      cases error with
      | notFound method path => exact hnone fun _ _ => by simp [hr]
      | methodNotAllowed method path allowed =>
        rw [DispatchError.log_toResponse_methodNotAllowed]
        exact hnone fun _ _ => by simp [hr]
      | handlerFailed cause => exact .failed (failsBy_iff.2 ⟨request, hread, hover, hr⟩)

/-- Handling an event leaves a report of what the handler failed by, and no other one. -/
theorem tellsFailure_handle (context : AppContext) (i : Invocation) :
    e.TellsFailure context i (reports (e.handle context .handling i).log) := by
  cases hread : Event.requestOfPayload i.payload e.stripStage with
  | ok request =>
    have hlog : reports (e.handle context .handling i).log = reports (e.answer context .handling i request).log := by
      simp only [handle, hread, Logged.log_bind, Logged.log_record, Logged.log_pure, reports_append]
      simp [reports, reportMessages, LogEntry.message]
    rw [hlog]
    exact tellsFailure_answer hread
  | error failure =>
    have hlog : reports (e.handle context .handling i).log = [] := by
      cases failure with
      | rejected error =>
        simp only [handle, hread]
        rfl
      | tooManyHeaders =>
        simp only [handle, hread]
        rfl
    rw [hlog]
    refine .notFailed fun cause hfails => ?_
    obtain ⟨request, hrequest, -⟩ := failsBy_iff.1 hfails
    rw [hread] at hrequest
    cases hrequest

end Entrypoint

/-! ### The reports of an invocation -/

/-- What the log of an invocation tells: `s` is the state before it, `f` what the factory does if it is run, `result`
what the invocation comes to and `after` the state after it. -/
structure Instance.Recounted (e : Entrypoint) (f : FactoryRun AppContext) (s : Instance) (i : Invocation)
    (result : InvokeResult) (after : Instance) (log : List LogEntry) : Prop where
  /-- It is answered, or fails, or the factory crashes. -/
  ends : (∃ envelope, result = .answered envelope) ∨ (∃ error, result = .failed error) ∨
    (∃ message, s.context? = none ∧ f.value = .crashed message)
  /-- An answer is told of with its status and whether the factory ran for it, after what the handler failed by. -/
  answered : ∀ envelope, result = .answered envelope →
    ∃ context failures, s.Provides f context ∧ e.TellsFailure context i failures ∧
      reports log = failures ++ [.invocationCompleted i.requestId envelope.statusCode.toNat
        (decide (s.cache.runs < after.cache.runs))]
  /-- A failure is told of with all the errors that led to it. -/
  failed : ∀ error, result = .failed error → reports log = [.invocationAborted i.requestId
    ("application context initialization failed: " ++ ": ".intercalate (error.cause.message :: error.cause.causes))]
  crashed : ∀ message, s.context? = none → f.value = .crashed message →
    result = .crashed message ∧ reports log = []

namespace Entrypoint

variable {e : Entrypoint} {f : FactoryRun AppContext} {s : Instance} {i : Invocation} {cache : Cache AppContext}

theorem reports_invoke_of_failed {error : InitError} (h : (s.cache.getOrInit f).value = (.failed error, cache)) :
    reports (e.invoke f s i).log = [.invocationAborted i.requestId error.message] := by
  simp only [invoke, Logged.log_bind, h, reports_append, Cache.reports_getOrInit]
  rfl

theorem reports_invoke_of_crashed {message : String} (h : (s.cache.getOrInit f).value = (.crashed message, cache)) :
    reports (e.invoke f s i).log = [] := by
  simp only [invoke, Logged.log_bind, h, reports_append, Cache.reports_getOrInit]
  rfl

theorem reports_invoke_of_response {made : Made AppContext} {response : Response}
    (h : (s.cache.getOrInit f).value = (.ready made, cache))
    (hr : (e.handle made.value .handling i).value = .ok response) :
    reports (e.invoke f s i).log = reports (e.handle made.value .handling i).log ++
      [.invocationCompleted i.requestId response.status.code.toNat !s.cache.isInitialized] := by
  simp only [invoke, Logged.log_bind, h, hr, reports_append, Cache.reports_getOrInit]
  rfl

end Entrypoint

namespace Instance.Invoked

variable {f : FactoryRun AppContext} {s : Instance} {taken : InvokeResult × Instance}

/-- The factory ran for an invocation if the cache was not initialized before. -/
theorem ran_eq (h : s.Invoked f taken) :
    decide (s.cache.runs < taken.2.cache.runs) = !s.cache.isInitialized := by
  cases h with
  | warm hcell => simp [Cache.isInitialized, hcell]
  | built hcell => simp [Cache.isInitialized, hcell]
  | failed hcell => simp [Cache.isInitialized, hcell]
  | crashed hcell => simp [Cache.isInitialized, hcell]

theorem ends (h : s.Invoked f taken) : (∃ envelope, taken.1 = .answered envelope) ∨
    (∃ error, taken.1 = .failed error) ∨ (∃ message, s.context? = none ∧ f.value = .crashed message) := by
  cases h with
  | warm _ envelope => exact .inl ⟨envelope, rfl⟩
  | built _ _ envelope => exact .inl ⟨envelope, rfl⟩
  | failed => exact .inr (.inl ⟨_, rfl⟩)
  | crashed hcell hf => exact .inr (.inr ⟨_, Instance.context?_eq_none.2 hcell, hf⟩)

/-- There is a context for an invocation that is answered. -/
theorem exists_provides {envelope : Envelope} (h : s.Invoked f taken) (hanswer : taken.1 = .answered envelope) :
    ∃ context, s.Provides f context := by
  cases h with
  | warm hcell => exact ⟨_, .inl (context?_eq_some.2 ⟨_, hcell⟩)⟩
  | built hcell hf => exact ⟨_, .inr ⟨Instance.context?_eq_none.2 hcell, hf⟩⟩
  | failed => cases hanswer
  | crashed => cases hanswer

end Instance.Invoked

/-- The log of an invocation whose event is read through tells the truth about it. -/
theorem Entrypoint.recounted_invoke (e : Entrypoint) (f : FactoryRun AppContext) (s : Instance) (i : Invocation)
    (hread : Event.requestOfPayload i.payload e.stripStage ≠ .error .tooManyHeaders) :
    s.Recounted e f i (e.invoke f s i).value.1 (e.invoke f s i).value.2 (e.invoke f s i).log := by
  have hinvoked := e.invoked f s i hread
  constructor
  case ends => exact hinvoked.ends
  case answered =>
    intro envelope henvelope
    obtain ⟨context, hc⟩ := hinvoked.exists_provides henvelope
    obtain ⟨made, cache, hget, rfl, -⟩ := hc.getOrInit
    obtain ⟨response, hr⟩ := exists_value_handle made.value .handling hread
    have hlog := reports_invoke_of_response hget hr
    rw [value_invoke_of_response hget hr] at henvelope
    cases henvelope
    rw [← hinvoked.ran_eq] at hlog
    exact ⟨made.value, _, hc, tellsFailure_handle made.value i, hlog⟩
  case failed =>
    intro error herror
    obtain ⟨hnone, hf⟩ := (hinvoked.failed_iff error).1 herror
    exact reports_invoke_of_failed (Cache.value_getOrInit_of_failed (Instance.context?_eq_none.1 hnone) hf)
  case crashed =>
    intro message hnone hf
    exact ⟨(hinvoked.crashed_iff message).2 ⟨hnone, hf⟩,
      reports_invoke_of_crashed (Cache.value_getOrInit_of_crashed (Instance.context?_eq_none.1 hnone) hf)⟩

/-! ### The reports of a session -/

/-- An invocation is told to be completed for which the factory ran. -/
def LogEntry.isColdCompletion : LogEntry → Bool
  | .invocationCompleted _ _ coldStart => coldStart
  | _ => false

/-- Cold completions are among the reports. -/
theorem countP_reports (log : List LogEntry) :
    (reports log).countP LogEntry.isColdCompletion = log.countP LogEntry.isColdCompletion := by
  rw [reports, List.countP_filter]
  refine List.countP_congr fun entry _ => ?_
  cases entry <;> simp [LogEntry.isColdCompletion, LogEntry.message, reportMessages]

/-- The step is an invocation that was answered. -/
def StepResult.isAnswered : StepResult → Bool
  | .invoked (.answered _) => true
  | _ => false

/-- What the steps of a session show and record: each invocation is told of as it went, and nothing else is told of.
The factory ran for exactly one of those that are told to be completed, if there are any. -/
structure Instance.Chronicle (e : Entrypoint) (factory : Nat → FactoryRun AppContext) (steps : List SessionStep)
    (taken : List (Logged LogEntry (StepResult × Instance))) : Prop where
  invocations : ∀ earlier i later, steps = earlier ++ .invoke i :: later →
    let s := Instance.after e factory {} earlier
    ∃ result after log, taken[earlier.length]? = some ⟨(.invoked result, after), log⟩ ∧
      s.Recounted (e.after earlier) (factory s.cache.runs) i result after log
  others : ∀ earlier step later, steps = earlier ++ step :: later → (∀ i, step ≠ .invoke i) →
    ∃ shown, taken[earlier.length]? = some ⟨shown, []⟩
  coldStarts : (taken.flatMap (·.log)).countP LogEntry.isColdCompletion =
    if taken.any (·.value.1.isAnswered) then 1 else 0

namespace Instance

variable {e : Entrypoint} {factory : Nat → FactoryRun AppContext} {s : Instance}

/-- What a session shows of a step is the step, taken from the state after the earlier ones. -/
theorem getElem?_run (e : Entrypoint) (factory : Nat → FactoryRun AppContext) (s : Instance)
    (earlier : List SessionStep) (step : SessionStep) (later : List SessionStep) :
    (s.run e factory (earlier ++ step :: later))[earlier.length]? =
      some ((Instance.after e factory s earlier).step (e.after earlier) factory step) := by
  induction earlier generalizing e s with
  | nil => rfl
  | cons first rest ih => exact ih (e.next first) (s.step e factory first).value.2

theorem log_step_invoke (i : Invocation) :
    (s.step e factory (.invoke i)).log = (e.invoke (factory s.cache.runs) s i).log := List.append_nil _

/-- An invocation is told to be completed after a run of the factory if it is answered and there was no context. -/
theorem countP_invoke (i : Invocation) (hread : e.ReadsThrough (.invoke i)) (f : FactoryRun AppContext) :
    (e.invoke f s i).log.countP LogEntry.isColdCompletion =
      if s.context? = none ∧ (StepResult.invoked (e.invoke f s i).value.1).isAnswered then 1 else 0 := by
  have htold := e.recounted_invoke f s i (hread i rfl)
  have hinvoked := e.invoked f s i (hread i rfl)
  rw [← countP_reports]
  rcases htold.ends with ⟨envelope, henvelope⟩ | ⟨error, herror⟩ | ⟨message, hnone, hf⟩
  · obtain ⟨context, failures, -, hfailures, hlog⟩ := htold.answered envelope henvelope
    have hcold : (!s.cache.isInitialized) = true ↔ s.context? = none := by
      simp [Cache.isInitialized, context?_eq_none]
    have hfailed : failures.countP LogEntry.isColdCompletion = 0 := by
      cases hfailures with
      | failed h => rfl
      | notFailed h => rfl
    rw [hlog, henvelope, hinvoked.ran_eq, List.countP_append, hfailed]
    simp [StepResult.isAnswered, LogEntry.isColdCompletion, List.countP_singleton, ← hcold]
  · rw [htold.failed error herror, herror]
    simp [StepResult.isAnswered, LogEntry.isColdCompletion]
  · obtain ⟨hcrashed, hlog⟩ := htold.crashed message hnone hf
    rw [hlog, hcrashed]
    simp [StepResult.isAnswered]

/-- A context is there after a step if there was one before or an invocation was answered. -/
theorem context?_step_eq_none_iff (step : SessionStep) (hread : e.ReadsThrough step) :
    (s.step e factory step).value.2.context? = none ↔
      s.context? = none ∧ (s.step e factory step).value.1.isAnswered = false := by
  cases step with
  | invoke i =>
    rw [value_step_invoke]
    have hinvoked := e.invoked (factory s.cache.runs) s i (hread i rfl)
    generalize (e.invoke (factory s.cache.runs) s i).value = taken at hinvoked ⊢
    rw [context?_eq_none, context?_eq_none]
    cases hinvoked with
    | warm hcell => simp [hcell]
    | built hcell => simp [StepResult.isAnswered]
    | failed hcell => simp [hcell, StepResult.isAnswered]
    | crashed hcell => simp [hcell, StepResult.isAnswered]
  | readContext => exact (and_iff_left rfl).symm
  | renew settings => exact (and_iff_left rfl).symm

/-- The cold completions in the rest of a session. -/
theorem countP_run (steps : List SessionStep) (hread : e.ReadsAll steps) :
    ((s.run e factory steps).flatMap (·.log)).countP LogEntry.isColdCompletion =
      if s.context? = none ∧ (s.run e factory steps).any (·.value.1.isAnswered) then 1 else 0 := by
  induction steps generalizing e s with
  | nil => simp [Instance.run]
  | cons step rest ih =>
    have hstep : (s.step e factory step).log.countP LogEntry.isColdCompletion =
        if s.context? = none ∧ (s.step e factory step).value.1.isAnswered then 1 else 0 := by
      cases step with
      | invoke i =>
        rw [log_step_invoke]
        exact countP_invoke i hread.1 _
      | readContext => simp [Instance.step, StepResult.isAnswered]
      | renew settings => simp [Instance.step, StepResult.isAnswered]
    have hrest := ih hread.2 (s := (s.step e factory step).value.2)
    simp only [context?_step_eq_none_iff step hread.1] at hrest
    simp only [Instance.run, List.flatMap_cons, List.countP_append, List.any_cons, hstep, hrest]
    -- an answered step counts if there was no context before, and none of the later ones then
    by_cases hanswered : (s.step e factory step).value.1.isAnswered
    · simp [hanswered]
    · simp [hanswered]

end Instance

namespace Sample

/-- A session without an event in it: first the factory fails, and then the request cannot be read. -/
def unheard : List SessionStep := [.invoke eventless, .renew (some hasty), .readContext, .invoke eventless]

end Sample

end CatalogGateway
