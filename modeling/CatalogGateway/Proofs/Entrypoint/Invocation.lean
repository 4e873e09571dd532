import CatalogGateway.Entrypoint
import CatalogGateway.Event.Sample
import CatalogGateway.Proofs.Route.Resolution
import Mathlib.Algebra.Order.Group.Int

/-!
# What an invocation is answered with

The stages of `Entrypoint.invoke` one after the other: the cache, the reading of the event, the dispatch in the time
that is left.  The task that dispatches a request does not crash (`Entrypoint.answer_eq`), so with a context and an
event that can be read through there is always an answer, and it follows four rules (`Entrypoint.Answers`).  Beside the
dispatch an answer records little (`Entrypoint.mem_log_answer`), among it the time that was not enough
(`Entrypoint.deadlineReached_mem_log_answer`).
-/

namespace CatalogGateway

/-! ### The cache -/

namespace Cache

variable {α : Type} {c : Cache α} {factory : FactoryRun α}

theorem getOrInit_of_some {made : Made α} (h : c.cell = some made) :
    c.getOrInit factory = pure (.ready made, c) := by
  simp [getOrInit, h]

theorem value_getOrInit_of_ready {value : α} (h : c.cell = none) (hf : factory.value = .ready value) :
    (c.getOrInit factory).value = (.ready ⟨value, c.runs⟩, ⟨some ⟨value, c.runs⟩, c.runs + 1⟩) := by
  simp [getOrInit, h, hf]

theorem value_getOrInit_of_failed {error : InitError} (h : c.cell = none) (hf : factory.value = .failed error) :
    (c.getOrInit factory).value = (.failed error, ⟨none, c.runs + 1⟩) := by
  simp [getOrInit, h, hf]

theorem value_getOrInit_of_crashed {message : String} (h : c.cell = none) (hf : factory.value = .crashed message) :
    (c.getOrInit factory).value = (.crashed message, ⟨none, c.runs + 1⟩) := by
  simp [getOrInit, h, hf]

end Cache

/-- The context that an invocation works with: the one there is, or else the one that its factory run gives. -/
def Instance.Provides (s : Instance) (factory : FactoryRun AppContext) (context : AppContext) : Prop :=
  s.context? = some context ∨ s.context? = none ∧ factory.value = .ready context

namespace Instance

variable {s : Instance} {factory : FactoryRun AppContext} {context : AppContext}

theorem context?_eq_none : s.context? = none ↔ s.cache.cell = none := by
  simp [context?, Cache.get?]

theorem context?_eq_some : s.context? = some context ↔ ∃ run, s.cache.cell = some ⟨context, run⟩ := by
  unfold context? Cache.get?
  cases h : s.cache.cell with
  | none => simp
  | some made =>
    obtain ⟨value, run⟩ := made
    simp

theorem Provides.getOrInit (h : s.Provides factory context) :
    ∃ made cache, (s.cache.getOrInit factory).value = (.ready made, cache) ∧ made.value = context ∧
      cache.cell = some made := by
  rcases h with h | ⟨hnone, hf⟩
  · obtain ⟨run, hcell⟩ := context?_eq_some.1 h
    exact ⟨⟨context, run⟩, s.cache, by rw [Cache.getOrInit_of_some hcell]; rfl, rfl, hcell⟩
  · rw [context?_eq_none] at hnone
    exact ⟨_, _, Cache.value_getOrInit_of_ready hnone hf, rfl, rfl⟩

end Instance

/-! ### The dispatch in the time that is left -/

namespace DispatchError

theorem log_toResponse_methodNotAllowed (method : Method) (path : String) (allowed : List Method) (requestId : String) :
    ((methodNotAllowed method path allowed).toResponse requestId).log = [] := by
  unfold toResponse
  dsimp only
  split
  · rfl
  · rfl

/-- Of the errors of a dispatch only the failure of a handler is recorded. -/
theorem mem_log_toResponse {error : DispatchError} {requestId : String} {entry : LogEntry}
    (h : entry ∈ (error.toResponse requestId).log) : ∃ text, entry = .handlerFailed requestId text := by
  cases error with
  | notFound method path => cases h
  | methodNotAllowed method path allowed =>
    rw [log_toResponse_methodNotAllowed] at h
    cases h
  | handlerFailed cause => exact ⟨cause.text, List.mem_singleton.1 h⟩

end DispatchError

namespace Entrypoint

variable {e : Entrypoint} {context : AppContext} {phase : Phase} {i : Invocation} {request : Request}

/-- Something that takes so long is not done when the time of the invocation is up: its deadline is set, and what is
left until then, less the margin, is shorter. -/
def Overruns (e : Entrypoint) (i : Invocation) (duration : Nat) : Prop :=
  i.deadline ≠ 0 ∧ max 0 ((i.deadline : ℤ) - i.now - e.margin) < duration

theorem any_budget?_lt {duration : Nat} :
    (i.budget? e.margin).any (· < duration) = true ↔ e.Overruns i duration := by
  unfold Invocation.budget? Overruns
  by_cases h : i.deadline = 0
  · simp [h]
  · simp only [h, if_false, Option.any_some, decide_eq_true_eq, ne_eq, not_false_eq_true, true_and]
    omega

/-- What takes no time is done in time. -/
theorem not_overruns_zero : ¬ e.Overruns i 0 := by
  rintro ⟨-, hlt⟩
  omega

/-- The dispatch of a request in an invocation. -/
def dispatch (e : Entrypoint) (context : AppContext) (i : Invocation) (request : Request) : Dispatch :=
  context.routes.dispatchDuring request (e.phaseAt .handling i)

/-- The response to a request without the branch for a task that crashed: there is no such task. -/
theorem answer_eq : e.answer context phase i request =
    let d := context.routes.dispatchDuring request (e.phaseAt phase i)
    (⟨(), d.log⟩ : Logged LogEntry Unit) >>= fun _ =>
      match (i.budget? e.margin).filter (· < d.duration) with
      | some budget =>
        Logged.record (.deadlineReached i.requestId budget) >>= fun _ =>
          pure (Problem.timeout i.requestId).toResponse
      | none =>
        match d.result with
        | .ok response => pure response
        | .error error => error.toResponse i.requestId := by
  unfold answer
  cases hd : context.routes.dispatchDuring request (e.phaseAt phase i) with
  | mk attempt returns duration log =>
    cases attempt with
    | crashed message => cases returns
    | returned result =>
      cases result with
      | ok response => rfl
      | error error => rfl

/-- Of a dispatch that is not done in time, the response shows nothing, and the log tells the time that it had. -/
theorem answer_of_overruns
    (h : e.Overruns i (context.routes.dispatchDuring request (e.phaseAt phase i)).duration) :
    ∃ budget, i.budget? e.margin = some budget ∧
      budget < (context.routes.dispatchDuring request (e.phaseAt phase i)).duration ∧
      e.answer context phase i request = ⟨(Problem.timeout i.requestId).toResponse,
        (context.routes.dispatchDuring request (e.phaseAt phase i)).log ++ [.deadlineReached i.requestId budget]⟩ := by
  rw [← any_budget?_lt, Option.any_eq_true] at h
  obtain ⟨budget, hbudget, hlt⟩ := h
  have hsome : (i.budget? e.margin).filter
      (· < (context.routes.dispatchDuring request (e.phaseAt phase i)).duration) = some budget :=
    Option.filter_eq_some_iff.2 ⟨hbudget, hlt⟩
  refine ⟨budget, hbudget, of_decide_eq_true hlt, ?_⟩
  rw [answer_eq]
  dsimp only
  rw [hsome]
  rfl

theorem answer_of_not_overruns
    (h : ¬ e.Overruns i (context.routes.dispatchDuring request (e.phaseAt phase i)).duration) :
    e.answer context phase i request =
      (⟨(), (context.routes.dispatchDuring request (e.phaseAt phase i)).log⟩ : Logged LogEntry Unit) >>= fun _ =>
        match (context.routes.dispatchDuring request (e.phaseAt phase i)).result with
        | .ok response => pure response
        | .error error => error.toResponse i.requestId := by
  have hnone : (i.budget? e.margin).filter
      (· < (context.routes.dispatchDuring request (e.phaseAt phase i)).duration) = none := by
    rw [← any_budget?_lt, ← Option.isSome_filter] at h
    exact Option.not_isSome_iff_eq_none.1 h
  rw [answer_eq]
  dsimp only
  rw [hnone]

theorem value_answer_of_overruns
    (h : e.Overruns i (context.routes.dispatchDuring request (e.phaseAt phase i)).duration) :
    (e.answer context phase i request).value = (Problem.timeout i.requestId).toResponse := by
  obtain ⟨budget, -, -, hanswer⟩ := answer_of_overruns h
  rw [hanswer]

theorem value_answer_of_ok {response : Response}
    (h : ¬ e.Overruns i (context.routes.dispatchDuring request (e.phaseAt phase i)).duration)
    (hr : (context.routes.dispatchDuring request (e.phaseAt phase i)).result = .ok response) :
    (e.answer context phase i request).value = response := by
  rw [answer_of_not_overruns h, hr]
  rfl

theorem value_answer_of_error {error : DispatchError}
    (h : ¬ e.Overruns i (context.routes.dispatchDuring request (e.phaseAt phase i)).duration)
    (hr : (context.routes.dispatchDuring request (e.phaseAt phase i)).result = .error error) :
    (e.answer context phase i request).value = (error.toResponse i.requestId).value := by
  rw [answer_of_not_overruns h, hr]
  rfl

/-- What an answer records beside the dispatch: that the time was up, or that the handler failed. -/
theorem mem_log_answer {entry : LogEntry} (h : entry ∈ (e.answer context phase i request).log) :
    entry ∈ (context.routes.dispatchDuring request (e.phaseAt phase i)).log ∨
    (∃ budget, i.budget? e.margin = some budget ∧
      budget < (context.routes.dispatchDuring request (e.phaseAt phase i)).duration ∧
      entry = .deadlineReached i.requestId budget) ∨
    ∃ error, entry = .handlerFailed i.requestId error := by
  by_cases hover : e.Overruns i (context.routes.dispatchDuring request (e.phaseAt phase i)).duration
  · obtain ⟨budget, hbudget, hlt, hanswer⟩ := answer_of_overruns hover
    rw [hanswer] at h
    rcases List.mem_append.1 h with h | h
    · exact .inl h
    · exact .inr (.inl ⟨budget, hbudget, hlt, List.mem_singleton.1 h⟩)
  · rw [answer_of_not_overruns hover, Logged.log_bind] at h
    rcases List.mem_append.1 h with h | h
    · exact .inl h
    · cases hr : (context.routes.dispatchDuring request (e.phaseAt phase i)).result with
      | ok response =>
        rw [hr] at h
        cases h
      | error error =>
        rw [hr] at h
        exact .inr (.inr (DispatchError.mem_log_toResponse h))

/-- That the time was up is recorded exactly if the dispatch is not done in time, with the time that it had. -/
theorem deadlineReached_mem_log_answer {requestId : String} {budget : Nat} :
    .deadlineReached requestId budget ∈ (e.answer context phase i request).log ↔
      requestId = i.requestId ∧ i.budget? e.margin = some budget ∧
        budget < (context.routes.dispatchDuring request (e.phaseAt phase i)).duration := by
  constructor
  · intro h
    rcases mem_log_answer h with h | ⟨budget', hbudget, hlt, heq⟩ | ⟨error, heq⟩
    · rcases RouteTable.mem_log_dispatchDuring h with ⟨method, path, pattern, heq⟩ | ⟨recorded, heq⟩
      · cases heq
      · cases heq
    · obtain ⟨rfl, rfl⟩ := LogEntry.deadlineReached.inj heq
      exact ⟨rfl, hbudget, hlt⟩
    · cases heq
  · rintro ⟨rfl, hbudget, hlt⟩
    have hover : e.Overruns i (context.routes.dispatchDuring request (e.phaseAt phase i)).duration := by
      rw [← any_budget?_lt, hbudget]
      exact decide_eq_true hlt
    obtain ⟨budget', hbudget', -, hanswer⟩ := answer_of_overruns hover
    rw [hbudget] at hbudget'
    obtain rfl := Option.some.inj hbudget'
    rw [hanswer]
    exact List.mem_append_right _ (List.mem_singleton_self _)

/-- The only time that an answer tells is a budget that was not enough. -/
theorem times_of_mem_log_answer {entry : LogEntry} (h : entry ∈ (e.answer context phase i request).log)
    {name : String} {time : Nat} (htime : (name, time) ∈ entry.times) :
    name = "budget_ms" ∧ i.budget? e.margin = some time ∧
      time < (context.routes.dispatchDuring request (e.phaseAt phase i)).duration := by
  cases entry with
  | deadlineReached requestId budget =>
    obtain ⟨rfl, rfl⟩ := Prod.mk.inj (List.mem_singleton.1 htime)
    exact ⟨rfl, (deadlineReached_mem_log_answer.1 h).2⟩
  | _ => cases htime

/-! ### The reading of the event -/

theorem value_handle_of_rejected {error : AdaptError}
    (h : Event.requestOfPayload i.payload e.stripStage = .error (.rejected error)) :
    (e.handle context phase i).value = .ok (error.toResponse i.requestId) := by
  simp [handle, h]

theorem value_handle_of_tooManyHeaders (h : Event.requestOfPayload i.payload e.stripStage = .error .tooManyHeaders) :
    (e.handle context phase i).value = .error tooManyHeadersMessage := by
  simp [handle, h]

theorem value_handle_of_ok (h : Event.requestOfPayload i.payload e.stripStage = .ok request) :
    (e.handle context phase i).value = .ok (e.answer context phase i request).value := by
  simp [handle, h]

/-- A handler that answers at once gives the response. -/
theorem value_handle_of_response {route : Route} {params : Params} {response : Response}
    (hread : Event.requestOfPayload i.payload e.stripStage = .ok request)
    (hroute : context.routes.resolve request.method request.path = .ok (route, params))
    (hduration : (route.handler ⟨request, params, e.phaseAt phase i⟩).duration = 0)
    (hresult : (route.handler ⟨request, params, e.phaseAt phase i⟩).result = .response response) :
    (e.handle context phase i).value = .ok response := by
  have hintime : ¬ e.Overruns i (context.routes.dispatchDuring request (e.phaseAt phase i)).duration := by
    rw [RouteTable.duration_dispatchDuring_of_ok hroute, hduration]
    exact not_overruns_zero
  have hresponse : (context.routes.dispatchDuring request (e.phaseAt phase i)).result = .ok response := by
    rw [RouteTable.result_dispatchDuring_of_ok hroute, hresult]
    rfl
  rw [value_handle_of_ok hread, value_answer_of_ok hintime hresponse]

/-- An event that is read through is responded to. -/
theorem exists_value_handle (context : AppContext) (phase : Phase)
    (h : Event.requestOfPayload i.payload e.stripStage ≠ .error .tooManyHeaders) :
    ∃ response, (e.handle context phase i).value = .ok response := by
  cases hr : Event.requestOfPayload i.payload e.stripStage with
  | ok request => exact ⟨_, value_handle_of_ok hr⟩
  | error failure =>
    cases failure with
    | rejected error => exact ⟨_, value_handle_of_rejected hr⟩
    | tooManyHeaders => exact absurd hr h

/-! ### The invocation as a whole -/

variable {factory : FactoryRun AppContext} {s : Instance} {cache : Cache AppContext}

theorem value_invoke_of_failed {error : InitError} (h : (s.cache.getOrInit factory).value = (.failed error, cache)) :
    (e.invoke factory s i).value = (.failed error, ⟨cache, .cold⟩) := by
  simp [invoke, h]

theorem value_invoke_of_crashed {message : String}
    (h : (s.cache.getOrInit factory).value = (.crashed message, cache)) :
    (e.invoke factory s i).value = (.crashed message, { s with cache }) := by
  simp [invoke, h]

theorem value_invoke_of_response {made : Made AppContext} {response : Response}
    (h : (s.cache.getOrInit factory).value = (.ready made, cache))
    (hr : (e.handle made.value .handling i).value = .ok response) :
    (e.invoke factory s i).value = (.answered (Envelope.ofResponse response), ⟨cache, .warm⟩) := by
  simp [invoke, h, hr]

theorem value_invoke_of_broken {made : Made AppContext} {message : String}
    (h : (s.cache.getOrInit factory).value = (.ready made, cache))
    (hr : (e.handle made.value .handling i).value = .error message) :
    (e.invoke factory s i).value = (.crashed message, ⟨cache, .handling⟩) := by
  simp [invoke, h, hr]

/-- What handling an event makes of the invocation, and the phase that it leaves. -/
def conclude : Except String Response → InvokeResult × Phase
  | .ok response => (.answered (Envelope.ofResponse response), .warm)
  | .error message => (.crashed message, .handling)

/-- With a context, an invocation comes to what handling its event comes to, and the context is kept. -/
theorem exists_value_invoke (hc : s.Provides factory context) :
    ∃ cache, cache.get? = some context ∧ (e.invoke factory s i).value =
      ((conclude (e.handle context .handling i).value).1,
        ⟨cache, (conclude (e.handle context .handling i).value).2⟩) := by
  obtain ⟨made, cache, hget, rfl, hcell⟩ := hc.getOrInit
  refine ⟨cache, by rw [Cache.get?, hcell]; rfl, ?_⟩
  cases hr : (e.handle made.value .handling i).value with
  | ok response => exact value_invoke_of_response hget hr
  | error message => exact value_invoke_of_broken hget hr

/-- With a context, an invocation whose event is read through is answered with what handling the event gives. -/
theorem exists_invoke_eq_answered (hc : s.Provides factory context)
    (hread : Event.requestOfPayload i.payload e.stripStage ≠ .error .tooManyHeaders) :
    ∃ response, (e.handle context .handling i).value = .ok response ∧
      (e.invoke factory s i).value.1 = .answered (Envelope.ofResponse response) := by
  obtain ⟨response, hr⟩ := exists_value_handle context .handling hread
  obtain ⟨cache, -, hinvoke⟩ := exists_value_invoke hc
  refine ⟨response, hr, ?_⟩
  rw [hinvoke, hr]
  rfl

/-- With a context, an invocation whose handler answers at once is answered with the response. -/
theorem value_invoke_fst_of_response {route : Route} {params : Params} {response : Response}
    (hc : s.Provides factory context) (hread : Event.requestOfPayload i.payload e.stripStage = .ok request)
    (hroute : context.routes.resolve request.method request.path = .ok (route, params))
    (hduration : (route.handler ⟨request, params, e.phaseAt .handling i⟩).duration = 0)
    (hresult : (route.handler ⟨request, params, e.phaseAt .handling i⟩).result = .response response) :
    (e.invoke factory s i).value.1 = .answered (Envelope.ofResponse response) := by
  obtain ⟨cache, -, hinvoke⟩ := exists_value_invoke hc
  rw [hinvoke, value_handle_of_response hread hroute hduration hresult]
  rfl

theorem value_invoke_fst_congr {e' : Entrypoint} {factory' : FactoryRun AppContext} {s' : Instance} {i' : Invocation}
    {context' : AppContext} (hc : s.Provides factory context) (hc' : s'.Provides factory' context')
    (h : (e'.handle context' .handling i').value = (e.handle context .handling i).value) :
    (e'.invoke factory' s' i').value.1 = (e.invoke factory s i).value.1 := by
  obtain ⟨cache, -, hinvoke⟩ := exists_value_invoke hc
  obtain ⟨cache', -, hinvoke'⟩ := exists_value_invoke hc'
  rw [hinvoke, hinvoke', h]

theorem context?_invoke (hc : s.Provides factory context) : (e.invoke factory s i).value.2.context? = some context := by
  obtain ⟨cache, hcache, hinvoke⟩ := exists_value_invoke hc
  rw [hinvoke]
  exact hcache

/-- An invocation with a context does not fail for the lack of one. -/
theorem invoke_ne_failed (hc : s.Provides factory context) (error : InitError) :
    (e.invoke factory s i).value.1 ≠ .failed error := by
  obtain ⟨cache, -, hinvoke⟩ := exists_value_invoke hc
  rw [hinvoke]
  cases (e.handle context .handling i).value with
  | ok response => nofun
  | error message => nofun

end Entrypoint

/-- What an invocation can come to, and in which state it leaves the instance, if its event is read through. -/
inductive Instance.Invoked (s : Instance) (factory : FactoryRun AppContext) : InvokeResult × Instance → Prop where
  | warm {made : Made AppContext} (hcell : s.cache.cell = some made) (envelope : Envelope) :
    Invoked s factory (.answered envelope, ⟨s.cache, .warm⟩)
  | built {context : AppContext} (hcell : s.cache.cell = none) (hf : factory.value = .ready context)
    (envelope : Envelope) :
    Invoked s factory (.answered envelope, ⟨⟨some ⟨context, s.cache.runs⟩, s.cache.runs + 1⟩, .warm⟩)
  | failed {error : InitError} (hcell : s.cache.cell = none) (hf : factory.value = .failed error) :
    Invoked s factory (.failed error, ⟨⟨none, s.cache.runs + 1⟩, .cold⟩)
  | crashed {message : String} (hcell : s.cache.cell = none) (hf : factory.value = .crashed message) :
    Invoked s factory (.crashed message, ⟨⟨none, s.cache.runs + 1⟩, s.phase⟩)

/-- What an invocation comes to. -/
theorem Entrypoint.invoked (e : Entrypoint) (factory : FactoryRun AppContext) (s : Instance) (i : Invocation)
    (hread : Event.requestOfPayload i.payload e.stripStage ≠ .error .tooManyHeaders) :
    s.Invoked factory (e.invoke factory s i).value := by
  cases hcell : s.cache.cell with
  | some made =>
    have hget : (s.cache.getOrInit factory).value = (.ready made, s.cache) := by
      rw [Cache.getOrInit_of_some hcell]
      rfl
    obtain ⟨response, hr⟩ := exists_value_handle made.value .handling hread
    rw [value_invoke_of_response hget hr]
    exact .warm hcell _
  | none =>
    cases hf : factory.value with
    | ready context =>
      obtain ⟨response, hr⟩ := exists_value_handle context .handling hread
      rw [value_invoke_of_response (Cache.value_getOrInit_of_ready hcell hf) hr]
      exact .built hcell hf _
    | failed error =>
      rw [value_invoke_of_failed (Cache.value_getOrInit_of_failed hcell hf)]
      exact .failed hcell hf
    | crashed message =>
      rw [value_invoke_of_crashed (Cache.value_getOrInit_of_crashed hcell hf)]
      exact .crashed hcell hf

/-! ### No task crashes -/

/-- The log tells of no dispatch that crashed. -/
def NoTaskFailed (log : List LogEntry) : Prop := ∀ requestId error, LogEntry.taskFailed requestId error ∉ log

namespace NoTaskFailed

theorem append {l l' : List LogEntry} (h : NoTaskFailed l) (h' : NoTaskFailed l') : NoTaskFailed (l ++ l') := by
  intro requestId error hmem
  rcases List.mem_append.1 hmem with hmem | hmem
  · exact h requestId error hmem
  · exact h' requestId error hmem

theorem map_app (log : List AppEntry) : NoTaskFailed (log.map .app) := by
  intro requestId error hmem
  obtain ⟨entry, -, heq⟩ := List.mem_map.1 hmem
  cases heq

theorem getOrInit {α : Type} (c : Cache α) (factory : FactoryRun α) : NoTaskFailed (c.getOrInit factory).log := by
  cases hcell : c.cell with
  | some made =>
    rw [Cache.getOrInit_of_some hcell]
    simp [NoTaskFailed]
  | none =>
    have happ := map_app factory.log
    cases hf : factory.value <;> simp_all [Cache.getOrInit, NoTaskFailed]

theorem answer (e : Entrypoint) (context : AppContext) (phase : Phase) (i : Invocation) (request : Request) :
    NoTaskFailed (e.answer context phase i request).log := by
  intro requestId error hmem
  rcases Entrypoint.mem_log_answer hmem with hmem | ⟨budget, -, -, heq⟩ | ⟨error', heq⟩
  · rcases RouteTable.mem_log_dispatchDuring hmem with ⟨method, path, pattern, heq⟩ | ⟨recorded, heq⟩
    · cases heq
    · cases heq
  · cases heq
  · cases heq

theorem handle (e : Entrypoint) (context : AppContext) (phase : Phase) (i : Invocation) :
    NoTaskFailed (e.handle context phase i).log := by
  have hanswer := NoTaskFailed.answer e context phase i
  unfold Entrypoint.handle
  split <;> simp_all [NoTaskFailed]

theorem invoke (e : Entrypoint) (factory : FactoryRun AppContext) (s : Instance) (i : Invocation) :
    NoTaskFailed (e.invoke factory s i).log := by
  unfold Entrypoint.invoke
  refine append (getOrInit s.cache factory) ?_
  obtain ⟨built, cache⟩ := (s.cache.getOrInit factory).value
  cases built with
  | crashed message => simp [NoTaskFailed]
  | failed error => simp [NoTaskFailed]
  | ready made =>
    refine append (handle e made.value .handling i) ?_
    cases (e.handle made.value .handling i).value <;> simp [NoTaskFailed]

end NoTaskFailed

/-! ### The rules of an answer -/

/-- The rules that the response of an invocation with a context follows, by what comes of reading the event and of
dispatching the request, where dispatching is running the handler of the route that is found, if there is one. -/
structure Entrypoint.Answers (e : Entrypoint) (context : AppContext) (i : Invocation) (response : Response) : Prop where
  /-- An event that is rejected, while it is decoded or later, is responded to as such, whatever the deadline. -/
  malformed : ∀ error, Event.requestOfPayload i.payload e.stripStage = .error (.rejected error) →
    response = error.toResponse i.requestId
  /-- A handler that is not done in time does not have any part in the response. -/
  timeout : ∀ request, Event.requestOfPayload i.payload e.stripStage = .ok request →
    e.Overruns i (e.dispatch context i request).duration → response = (Problem.timeout i.requestId).toResponse
  /-- The response of a handler that is done in time is the response. -/
  responded : ∀ request handled, Event.requestOfPayload i.payload e.stripStage = .ok request →
    ¬ e.Overruns i (e.dispatch context i request).duration →
    (e.dispatch context i request).result = .ok handled → response = handled
  /-- A request without a response of a handler is responded to by what stood in the way. -/
  refused : ∀ request error, Event.requestOfPayload i.payload e.stripStage = .ok request →
    ¬ e.Overruns i (e.dispatch context i request).duration →
    (e.dispatch context i request).result = .error error → response = (error.toResponse i.requestId).value
  /-- For a request with a route the dispatch takes as long as the handler, and comes to what the handler comes to. -/
  ran : ∀ request route params, Event.requestOfPayload i.payload e.stripStage = .ok request →
    context.routes.resolve request.method request.path = .ok (route, params) →
    let run := route.handler ⟨request, params, e.phaseAt .handling i⟩
    (e.dispatch context i request).duration = run.duration ∧
      (e.dispatch context i request).result = route.meaning run.result
  /-- For a request without a route no handler runs, and the dispatch comes to what stood in the way. -/
  unrouted : ∀ request error, Event.requestOfPayload i.payload e.stripStage = .ok request →
    context.routes.resolve request.method request.path = .error error →
    (e.dispatch context i request).duration = 0 ∧ (e.dispatch context i request).result = .error error

theorem Entrypoint.answers_of_handle {e : Entrypoint} {context : AppContext} {i : Invocation} {response : Response}
    (h : (e.handle context .handling i).value = .ok response) : e.Answers context i response := by
  constructor
  case malformed =>
    intro error herror
    rw [value_handle_of_rejected herror] at h
    exact (Except.ok.inj h).symm
  case timeout =>
    intro request hrequest hover
    rw [value_handle_of_ok hrequest] at h
    rw [← Except.ok.inj h]
    exact value_answer_of_overruns hover
  case responded =>
    intro request handled hrequest hover hresult
    rw [value_handle_of_ok hrequest] at h
    rw [← Except.ok.inj h]
    exact value_answer_of_ok hover hresult
  case refused =>
    intro request error hrequest hover hresult
    rw [value_handle_of_ok hrequest] at h
    rw [← Except.ok.inj h]
    exact value_answer_of_error hover hresult
  case ran =>
    intro request route params _ hroute
    exact ⟨RouteTable.duration_dispatchDuring_of_ok hroute _, RouteTable.result_dispatchDuring_of_ok hroute _⟩
  case unrouted =>
    intro request error _ hroute
    exact ⟨RouteTable.duration_dispatchDuring_of_error hroute _, RouteTable.result_dispatchDuring_of_error hroute _⟩

/-- With a context, every invocation whose event is read through is answered by the four rules.  No dispatch crashes
on the way, and an instance with the same context but any other history gives the same answer. -/
theorem invoke_answers (e : Entrypoint) (factory : FactoryRun AppContext) (s : Instance) (i : Invocation)
    (context : AppContext) (hc : s.Provides factory context)
    (hread : Event.requestOfPayload i.payload e.stripStage ≠ .error .tooManyHeaders) :
    (∃ response, (e.invoke factory s i).value.1 = .answered (Envelope.ofResponse response) ∧
      e.Answers context i response) ∧
    NoTaskFailed (e.invoke factory s i).log ∧
    ∀ factory' s', s'.Provides factory' context →
      (e.invoke factory' s' i).value.1 = (e.invoke factory s i).value.1 := by
  obtain ⟨response, hhandle, hinvoke⟩ := Entrypoint.exists_invoke_eq_answered hc hread
  refine ⟨⟨response, hinvoke, Entrypoint.answers_of_handle hhandle⟩, NoTaskFailed.invoke e factory s i, ?_⟩
  intro factory' s' hc'
  obtain ⟨response', hhandle', hinvoke'⟩ := Entrypoint.exists_invoke_eq_answered hc' hread
  rw [hhandle] at hhandle'
  rw [hinvoke, hinvoke', Except.ok.inj hhandle']

namespace Sample

/-- A context with a handler that takes half a second. -/
def slowContext : AppContext :=
  ⟨"catalog", ⟨[⟨.get, ⟨"/slow", [.literal "slow"]⟩, fun _ => { result := .response (.text "late"), duration := 500 }⟩]⟩⟩

/-- An invocation that has 400 milliseconds left. -/
def hurried : Invocation := { payload := eventV2 "GET" "/slow", requestId := "hurried", deadline := 1000, now := 600 }

/-- The request of the invocation. -/
def slowRequest : Request :=
  { method := .get, path := "/slow", requestId := "apigw-v2-request", sourceIp := some "203.0.113.10" }

theorem requestOfPayload_hurried : Event.requestOfPayload hurried.payload true = .ok slowRequest := by
  have hsome : (Event.requestOfPayload hurried.payload true).toOption = some slowRequest := by decide +kernel
  cases hrequest : Event.requestOfPayload hurried.payload true with
  | error failure =>
    rw [hrequest] at hsome
    cases hsome
  | ok request =>
    rw [hrequest] at hsome
    rw [Option.some.inj hsome]

end Sample

/-- At its cold start an instance answers for a handler that is too slow. -/
theorem invoke_answers_hurried :
    Instance.Provides {} ⟨.ready Sample.slowContext, []⟩ Sample.slowContext ∧
    Event.requestOfPayload Sample.hurried.payload true = .ok Sample.slowRequest ∧
    (({} : Entrypoint).invoke ⟨.ready Sample.slowContext, []⟩ {} Sample.hurried).value.1 =
      .answered (Envelope.ofResponse (Problem.timeout "hurried").toResponse) := by
  have hc : Instance.Provides {} ⟨.ready Sample.slowContext, []⟩ Sample.slowContext := .inr ⟨rfl, rfl⟩
  have hrequest := Sample.requestOfPayload_hurried
  have hover : ({} : Entrypoint).Overruns Sample.hurried
      (({} : Entrypoint).dispatch Sample.slowContext Sample.hurried Sample.slowRequest).duration :=
    Entrypoint.any_budget?_lt.1 (by decide +kernel)
  refine ⟨hc, hrequest, ?_⟩
  obtain ⟨⟨response, hinvoke, hanswers⟩, -⟩ :=
    invoke_answers {} ⟨.ready Sample.slowContext, []⟩ {} Sample.hurried Sample.slowContext hc
      (by rw [hrequest]; nofun)
  rw [hinvoke, hanswers.timeout Sample.slowRequest hrequest hover]
  rfl

end CatalogGateway
