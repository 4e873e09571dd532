import CatalogGateway.Proofs.Entrypoint.Invocation
import CatalogGateway.Proofs.Route.Alike
import CatalogGateway.Session

/-!
# The life of an instance

What holds after every step of a session over a fresh cache.  The invariant is `Instance.Settled`: between the steps
the phase tells whether there is a context, and the context is that of the first factory run that gave one.  Each step
keeps it (`Instance.Settled.step`), so every session does (`Instance.Settled.after`), whatever fails or crashes on the
way and however often the entrypoint is replaced.
-/

namespace CatalogGateway

/-! ### Sessions -/

/-- The entrypoint after the steps of a session. -/
def Entrypoint.after (e : Entrypoint) (steps : List SessionStep) : Entrypoint := steps.foldl Entrypoint.next e

/-- The state after the steps of a session. -/
def Instance.after (e : Entrypoint) (factory : Nat → FactoryRun AppContext) (s : Instance) :
    List SessionStep → Instance
  | [] => s
  | step :: rest => Instance.after (e.next step) factory (s.step e factory step).value.2 rest

/-- The event of the step, if it has one, is read through. -/
def Entrypoint.ReadsThrough (e : Entrypoint) (step : SessionStep) : Prop :=
  ∀ i, step = .invoke i → Event.requestOfPayload i.payload e.stripStage ≠ .error .tooManyHeaders

/-- All events of a session are read through, each by the entrypoint of its time. -/
def Entrypoint.ReadsAll (e : Entrypoint) : List SessionStep → Prop
  | [] => True
  | step :: rest => e.ReadsThrough step ∧ (e.next step).ReadsAll rest

section

variable (e : Entrypoint) (factory : Nat → FactoryRun AppContext)

theorem Entrypoint.readsAll_append (l l' : List SessionStep) :
    e.ReadsAll (l ++ l') ↔ e.ReadsAll l ∧ (e.after l).ReadsAll l' := by
  induction l generalizing e with
  | nil => simp [ReadsAll, after]
  | cons step rest ih =>
    simp only [List.cons_append, ReadsAll, ih (e.next step), and_assoc]
    rfl

/-- What a session shows last is its last step, taken from the state after the others. -/
theorem Instance.getLast?_run (s : Instance) (l : List SessionStep) (step : SessionStep) :
    (s.run e factory (l ++ [step])).getLast? = some ((Instance.after e factory s l).step (e.after l) factory step) := by
  induction l generalizing e s with
  | nil => rfl
  | cons first rest ih =>
    have hrest := ih (e.next first) (s.step e factory first).value.2
    simp only [List.cons_append, Instance.run, List.getLast?_cons]
    rw [hrest]
    rfl

end

/-! ### The invariant -/

/-- The state of an instance between two steps: the phase tells whether there is a context, and the context is that of
the first factory run that gave one. -/
structure Instance.Settled (factory : Nat → FactoryRun AppContext) (s : Instance) : Prop where
  phase_of_none : s.cache.cell = none → s.phase = .cold
  phase_of_some : ∀ made, s.cache.cell = some made → s.phase = .warm
  of_none : s.cache.cell = none → ∀ n < s.cache.runs, ∀ context, (factory n).value ≠ .ready context
  of_some : ∀ made, s.cache.cell = some made → made.run < s.cache.runs ∧
    (factory made.run).value = .ready made.value ∧ ∀ n < made.run, ∀ context, (factory n).value ≠ .ready context

namespace Instance

variable {e : Entrypoint} {factory : Nat → FactoryRun AppContext} {s : Instance}

theorem settled_new : Settled factory {} := by
  constructor
  · intro _
    rfl
  · intro made hmade
    cases hmade
  · intro _ n hn
    exact absurd hn (Nat.not_lt_zero n)
  · intro made hmade
    cases hmade

/-- A run that gives no context: there still has not been one that did. -/
private theorem Settled.no_context (h : s.Settled factory) (hcell : s.cache.cell = none)
    (hf : ∀ context, (factory s.cache.runs).value ≠ .ready context) :
    ∀ n < s.cache.runs + 1, ∀ context, (factory n).value ≠ .ready context := by
  intro n hn
  rcases Nat.lt_succ_iff_lt_or_eq.1 hn with hn | rfl
  · exact h.of_none hcell n hn
  · exact hf

theorem Settled.invoked (h : s.Settled factory) {taken : InvokeResult × Instance}
    (hi : s.Invoked (factory s.cache.runs) taken) : taken.2.Settled factory := by
  cases hi with
  | warm hcell envelope =>
    refine ⟨?_, fun _ _ => rfl, h.of_none, h.of_some⟩
    intro hnone
    exact absurd (hcell.symm.trans hnone) (by simp)
  | built hcell hf envelope =>
    refine ⟨by simp, fun _ _ => rfl, by simp, ?_⟩
    rintro _ ⟨⟩
    exact ⟨Nat.lt_succ_self _, hf, h.of_none hcell⟩
  | failed hcell hf =>
    refine ⟨fun _ => rfl, by simp, fun _ => h.no_context hcell ?_, by simp⟩
    intro context
    rw [hf]
    nofun
  | crashed hcell hf =>
    refine ⟨fun _ => h.phase_of_none hcell, by simp, fun _ => h.no_context hcell ?_, by simp⟩
    intro context
    rw [hf]
    nofun

theorem value_step_invoke (i : Invocation) : (s.step e factory (.invoke i)).value =
    (.invoked (e.invoke (factory s.cache.runs) s i).value.1, (e.invoke (factory s.cache.runs) s i).value.2) := rfl

/-- Each step leaves the instance settled. -/
theorem Settled.step (h : s.Settled factory) (step : SessionStep) (hread : e.ReadsThrough step) :
    (s.step e factory step).value.2.Settled factory := by
  cases step with
  | invoke i => exact h.invoked (e.invoked _ s i (hread i rfl))
  | readContext => exact h
  | renew settings =>
    refine ⟨?_, ?_, h.of_none, h.of_some⟩
    · intro hnone
      have hnone : s.cache.cell = none := hnone
      simp [Instance.step, Instance.renew, Cache.isInitialized, hnone]
    · intro made hmade
      have hmade : s.cache.cell = some made := hmade
      simp [Instance.step, Instance.renew, Cache.isInitialized, hmade]

/-- Any number of steps leaves the instance settled. -/
theorem Settled.after (h : s.Settled factory) (steps : List SessionStep) (hread : e.ReadsAll steps) :
    (Instance.after e factory s steps).Settled factory := by
  induction steps generalizing e s with
  | nil => exact h
  | cons step rest ih => exact ih (h.step step hread.1) hread.2

/-- A context stays, whatever the steps. -/
theorem step_keeps_context {context : AppContext} (h : s.context? = some context) (step : SessionStep) :
    (s.step e factory step).value.2.context? = some context := by
  cases step with
  | invoke i => exact Entrypoint.context?_invoke (.inl h)
  | readContext => exact h
  | renew settings => exact h

theorem after_keeps_context {context : AppContext} (h : s.context? = some context) (steps : List SessionStep) :
    (Instance.after e factory s steps).context? = some context := by
  induction steps generalizing e s with
  | nil => exact h
  | cons step rest ih => exact ih (step_keeps_context h step)

/-- With a context, the factory does not matter. -/
theorem invoke_eq_of_context {context : AppContext} (h : s.context? = some context) (f f' : FactoryRun AppContext)
    (i : Invocation) : e.invoke f s i = e.invoke f' s i := by
  obtain ⟨run, hcell⟩ := context?_eq_some.1 h
  unfold Entrypoint.invoke
  rw [Cache.getOrInit_of_some hcell, Cache.getOrInit_of_some hcell]

end Instance

/-! ### What handlers find -/

/-- Two handlers that take the same time, and come to the same whenever they find the phase `handling` all the time. -/
def Handler.SameWhileHandling (h h' : Handler) : Prop :=
  ∀ call, (h' call).duration = (h call).duration ∧
    ((∀ time ≤ (h call).duration, call.phaseAt time = .handling) → (h' call).result = (h call).result)

/-- A dispatch takes the same time in both tables, and comes to the same if the phase is `handling` as long as it
takes. -/
theorem RouteTable.Alike.dispatchDuring {t t' : RouteTable} (h : t.Alike Handler.SameWhileHandling t')
    (request : Request) (phaseAt : Nat → Phase) :
    (t'.dispatchDuring request phaseAt).duration = (t.dispatchDuring request phaseAt).duration ∧
    ((∀ time ≤ (t.dispatchDuring request phaseAt).duration, phaseAt time = .handling) →
      (t'.dispatchDuring request phaseAt).result = (t.dispatchDuring request phaseAt).result) := by
  rcases h.resolve request.method request.path with
    ⟨error, herror, herror'⟩ | ⟨route, route', params, hok, hok', hroute⟩
  · rw [RouteTable.dispatchDuring_of_error herror, RouteTable.dispatchDuring_of_error herror']
    exact ⟨rfl, fun _ => rfl⟩
  · obtain ⟨hduration, hresult⟩ := hroute.handler ⟨request, params, phaseAt⟩
    rw [result_dispatchDuring_of_ok hok, result_dispatchDuring_of_ok hok', duration_dispatchDuring_of_ok hok,
      duration_dispatchDuring_of_ok hok']
    refine ⟨hduration, fun hphase => ?_⟩
    rw [hresult hphase, hroute.meaning]

namespace Entrypoint

variable {e : Entrypoint} {context context' : AppContext} {i : Invocation}

/-- As long as a handler is waited for, the phase is that of its start. -/
theorem phaseAt_of_not_overruns (phase : Phase) {duration time : Nat} (h : ¬ e.Overruns i duration)
    (hle : time ≤ duration) : e.phaseAt phase i time = phase := by
  have hnot : ¬ e.Overruns i time := by
    rintro ⟨hset, hlt⟩
    exact h ⟨hset, by omega⟩
  rw [← any_budget?_lt] at hnot
  simp [phaseAt, hnot]

/-- What handlers do when they find another phase than `handling` has no part in any response. -/
theorem value_answer_eq_of_alike (h : context.routes.Alike Handler.SameWhileHandling context'.routes)
    (request : Request) :
    (e.answer context' .handling i request).value = (e.answer context .handling i request).value := by
  obtain ⟨hduration, hresult⟩ := h.dispatchDuring request (e.phaseAt .handling i)
  -- a handler that overruns has no part in the response; any other one finds the phase of its start to the end
  by_cases hover : e.Overruns i (context.routes.dispatchDuring request (e.phaseAt .handling i)).duration
  · rw [value_answer_of_overruns hover, value_answer_of_overruns (hduration.symm ▸ hover)]
  · have hsame := hresult fun time htime => phaseAt_of_not_overruns .handling hover htime
    have hover' : ¬ e.Overruns i (context'.routes.dispatchDuring request (e.phaseAt .handling i)).duration :=
      hduration.symm ▸ hover
    cases hr : (context.routes.dispatchDuring request (e.phaseAt .handling i)).result with
    | ok response => rw [value_answer_of_ok hover hr, value_answer_of_ok hover' (hsame.trans hr)]
    | error error => rw [value_answer_of_error hover hr, value_answer_of_error hover' (hsame.trans hr)]

theorem value_handle_eq_of_alike (h : context.routes.Alike Handler.SameWhileHandling context'.routes) :
    (e.handle context' .handling i).value = (e.handle context .handling i).value := by
  cases hr : Event.requestOfPayload i.payload e.stripStage with
  | ok request => rw [value_handle_of_ok hr, value_handle_of_ok hr, value_answer_eq_of_alike h]
  | error failure =>
    cases failure with
    | rejected error => rw [value_handle_of_rejected hr, value_handle_of_rejected hr]
    | tooManyHeaders => rw [value_handle_of_tooManyHeaders hr, value_handle_of_tooManyHeaders hr]

end Entrypoint

/-! ### The laws of a step -/

/-- What holds of a step of a session: `s` is the state before it, `taken` what it shows and the state after it. -/
structure Instance.StepLaws (e : Entrypoint) (factory : Nat → FactoryRun AppContext) (s : Instance)
    (step : SessionStep) (taken : StepResult × Instance) : Prop where
  /-- The phase tells whether there is a context. -/
  warm_iff : taken.2.phase = .warm ↔ taken.2.context?.isSome
  cold_iff : taken.2.phase = .cold ↔ taken.2.context? = none
  /-- An invocation runs the factory once if there is no context, and else not at all. -/
  ran_iff : ∀ i, step = .invoke i → (taken.2.cache.runs = s.cache.runs + 1 ↔ s.context? = none) ∧
    (taken.2.cache.runs = s.cache.runs ↔ s.context?.isSome)
  spared : ∀ i, step = .invoke i → s.context?.isSome → ∀ f f', e.invoke f s i = e.invoke f' s i
  /-- An invocation fails or crashes with the factory run that it makes, and only so. -/
  failed_iff : ∀ i error, step = .invoke i →
    (taken.1 = .invoked (.failed error) ↔ s.context? = none ∧ (factory s.cache.runs).value = .failed error)
  crashed_iff : ∀ i message, step = .invoke i →
    (taken.1 = .invoked (.crashed message) ↔ s.context? = none ∧ (factory s.cache.runs).value = .crashed message)
  /-- It then leaves everything as in the beginning, and the next invocation runs the factory again. -/
  unanswered : ∀ i, step = .invoke i → (∀ envelope, taken.1 ≠ .invoked (.answered envelope)) →
    taken.2.context? = none ∧ taken.2.phase = .cold ∧
      ∀ (e' : Entrypoint) f j, e'.ReadsThrough (.invoke j) →
        (e'.invoke f taken.2 j).value.2.cache.runs = taken.2.cache.runs + 1
  /-- The context is that of the first factory run that gave one, and stays. -/
  first : ∀ context, taken.2.context? = some context → ∃ n < taken.2.cache.runs,
    (factory n).value = .ready context ∧ ∀ m < n, ∀ other, (factory m).value ≠ .ready other
  kept : ∀ context, taken.2.context? = some context → ∀ e' later,
    (Instance.after e' factory taken.2 later).context? = some context
  /-- A handler that is done within its invocation finds the phase `handling` all the time. -/
  handling : ∀ i context request, step = .invoke i → s.Provides (factory s.cache.runs) context →
    Event.requestOfPayload i.payload e.stripStage = .ok request →
    ¬ e.Overruns i (e.dispatch context i request).duration →
    ∀ time ≤ (e.dispatch context i request).duration, e.phaseAt .handling i time = .handling
  /-- What handlers would do if they found another phase, no answer shows. -/
  observed : ∀ i context, step = .invoke i → s.Provides (factory s.cache.runs) context →
    ∀ context', context.routes.Alike Handler.SameWhileHandling context'.routes → ∀ s' f,
      s'.Provides f context' → .invoked (e.invoke f s' i).value.1 = taken.1

namespace Instance

variable {e : Entrypoint} {factory : Nat → FactoryRun AppContext} {s : Instance}

theorem Settled.warm_iff (h : s.Settled factory) : s.phase = .warm ↔ s.context?.isSome := by
  cases hcell : s.cache.cell with
  | none =>
    rw [h.phase_of_none hcell, context?_eq_none.2 hcell]
    simp
  | some made => simp [h.phase_of_some made hcell, context?, Cache.get?, hcell]

theorem Settled.cold_iff (h : s.Settled factory) : s.phase = .cold ↔ s.context? = none := by
  cases hcell : s.cache.cell with
  | none =>
    rw [h.phase_of_none hcell, context?_eq_none.2 hcell]
    simp
  | some made => simp [h.phase_of_some made hcell, context?, Cache.get?, hcell]

theorem Settled.first (h : s.Settled factory) {context : AppContext} (hc : s.context? = some context) :
    ∃ n < s.cache.runs, (factory n).value = .ready context ∧
      ∀ m < n, ∀ other, (factory m).value ≠ .ready other := by
  obtain ⟨run, hcell⟩ := context?_eq_some.1 hc
  exact ⟨run, h.of_some _ hcell⟩

variable {f : FactoryRun AppContext} {taken : InvokeResult × Instance}

theorem Invoked.runs_eq_succ_iff (h : s.Invoked f taken) :
    taken.2.cache.runs = s.cache.runs + 1 ↔ s.context? = none := by
  rw [context?_eq_none]
  cases h with
  | warm hcell => simp [hcell]
  | built hcell => simp [hcell]
  | failed hcell => simp [hcell]
  | crashed hcell => simp [hcell]

theorem Invoked.runs_eq_iff (h : s.Invoked f taken) : taken.2.cache.runs = s.cache.runs ↔ s.context?.isSome := by
  rw [← Option.ne_none_iff_isSome, ne_eq, ← h.runs_eq_succ_iff]
  cases h <;> simp

theorem Invoked.failed_iff (h : s.Invoked f taken) (error : InitError) :
    taken.1 = .failed error ↔ s.context? = none ∧ f.value = .failed error := by
  rw [context?_eq_none]
  cases h with
  | warm hcell => simp [hcell]
  | built hcell hf => simp [hf]
  | failed hcell hf => simp [hcell, hf]
  | crashed hcell hf => simp [hf]

theorem Invoked.crashed_iff (h : s.Invoked f taken) (message : String) :
    taken.1 = .crashed message ↔ s.context? = none ∧ f.value = .crashed message := by
  rw [context?_eq_none]
  cases h with
  | warm hcell => simp [hcell]
  | built hcell hf => simp [hf]
  | failed hcell hf => simp [hf]
  | crashed hcell hf => simp [hcell, hf]

/-- An invocation without an answer leaves no context. -/
theorem Invoked.context?_eq_none (h : s.Invoked f taken) (hanswer : ∀ envelope, taken.1 ≠ .answered envelope) :
    taken.2.context? = none := by
  cases h with
  | warm hcell envelope => exact absurd rfl (hanswer envelope)
  | built hcell hf envelope => exact absurd rfl (hanswer envelope)
  | failed hcell hf => rfl
  | crashed hcell hf => rfl

/-- From a settled state on, a step follows the laws. -/
theorem Settled.stepLaws (h : s.Settled factory) (step : SessionStep) (hread : e.ReadsThrough step) :
    StepLaws e factory s step (s.step e factory step).value := by
  have hafter := h.step step hread
  have hinvoked : ∀ i, step = .invoke i → s.Invoked (factory s.cache.runs) (e.invoke (factory s.cache.runs) s i).value :=
    fun i hi => e.invoked _ s i (hread i hi)
  constructor
  case warm_iff => exact hafter.warm_iff
  case cold_iff => exact hafter.cold_iff
  case ran_iff =>
    rintro i rfl
    exact ⟨(hinvoked i rfl).runs_eq_succ_iff, (hinvoked i rfl).runs_eq_iff⟩
  case spared =>
    rintro i rfl hsome f f'
    obtain ⟨context, hcontext⟩ := Option.isSome_iff_exists.1 hsome
    exact invoke_eq_of_context hcontext f f' i
  case failed_iff =>
    rintro i error rfl
    rw [value_step_invoke, ← (hinvoked i rfl).failed_iff, StepResult.invoked.injEq]
  case crashed_iff =>
    rintro i message rfl
    rw [value_step_invoke, ← (hinvoked i rfl).crashed_iff, StepResult.invoked.injEq]
  case unanswered =>
    rintro i rfl hanswer
    have hnone : (s.step e factory (.invoke i)).value.2.context? = none := by
      refine (hinvoked i rfl).context?_eq_none fun envelope heq => hanswer envelope ?_
      rw [value_step_invoke, heq]
    refine ⟨hnone, hafter.cold_iff.2 hnone, ?_⟩
    intro e' f j hj
    exact (e'.invoked f _ j (hj j rfl)).runs_eq_succ_iff.2 hnone
  case first => exact fun context hcontext => hafter.first hcontext
  case kept => exact fun context hcontext e' later => after_keeps_context hcontext later
  case handling =>
    intro i context request _ _ _ hover time hle
    exact Entrypoint.phaseAt_of_not_overruns .handling hover hle
  case observed =>
    rintro i context rfl hc context' halike s' f hc'
    obtain ⟨response, hhandle, hinvoke⟩ := Entrypoint.exists_invoke_eq_answered hc (hread i rfl)
    obtain ⟨response', hhandle', hinvoke'⟩ := Entrypoint.exists_invoke_eq_answered hc' (hread i rfl)
    rw [Entrypoint.value_handle_eq_of_alike halike, hhandle] at hhandle'
    rw [value_step_invoke, hinvoke, hinvoke', Except.ok.inj hhandle']

end Instance

/-- The last step of any session over a fresh cache follows the laws, whatever came before it. -/
theorem session_laws (e : Entrypoint) (factory : Nat → FactoryRun AppContext) (earlier : List SessionStep)
    (step : SessionStep) (hread : e.ReadsAll (earlier ++ [step])) :
    let s := Instance.after e factory {} earlier
    let taken := s.step (e.after earlier) factory step
    (Instance.run e factory {} (earlier ++ [step])).getLast? = some taken ∧
      Instance.StepLaws (e.after earlier) factory s step taken.value := by
  intro s taken
  obtain ⟨hearlier, hstep, -⟩ := (e.readsAll_append earlier [step]).1 hread
  have hsettled : s.Settled factory := Instance.settled_new.after earlier hearlier
  exact ⟨Instance.getLast?_run e factory {} earlier step, hsettled.stepLaws step hstep⟩

namespace Sample

/-- A factory that fails at first. -/
def lateFactory : Nat → FactoryRun AppContext
  | 0 => ⟨.failed (.ofMessage "no catalog"), []⟩
  | _ => ⟨.ready slowContext, []⟩

/-- An entrypoint that keeps no time in reserve. -/
def hasty : Entrypoint := { margin := 0 }

/-- A session in which the entrypoint is replaced after the factory failed. -/
def rescued : List SessionStep := [.invoke hurried, .renew (some hasty)]

end Sample

/-- The factory fails, the entrypoint is replaced, and the next invocation follows the laws. -/
theorem session_laws_rescued :
    ({} : Entrypoint).ReadsAll (Sample.rescued ++ [.invoke Sample.hurried]) ∧
      Instance.StepLaws (({} : Entrypoint).after Sample.rescued) Sample.lateFactory
        (Instance.after {} Sample.lateFactory {} Sample.rescued) (.invoke Sample.hurried)
        ((Instance.after {} Sample.lateFactory {} Sample.rescued).step (({} : Entrypoint).after Sample.rescued)
          Sample.lateFactory (.invoke Sample.hurried)).value := by
  have hread : ∀ e : Entrypoint, e.stripStage = true → e.ReadsThrough (.invoke Sample.hurried) := by
    rintro e hstrip _ ⟨⟩
    rw [hstrip, Sample.requestOfPayload_hurried]
    nofun
  have hreads : ({} : Entrypoint).ReadsAll (Sample.rescued ++ [.invoke Sample.hurried]) :=
    ⟨hread _ rfl, nofun, hread _ rfl, trivial⟩
  exact ⟨hreads, (session_laws {} Sample.lateFactory Sample.rescued (.invoke Sample.hurried) hreads).2⟩

end CatalogGateway
