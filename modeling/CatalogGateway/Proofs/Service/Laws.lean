import CatalogGateway.Proofs.Service.Knowledge

/-!
# The laws of a service

Services that know the same show the same from then on (`Service.Like.trace`), so environments that come too late and
invocations that failed are not seen in anything else.  All that is seen of a service follows from its environment at the
start and from the steps (`service_laws`).
-/

namespace CatalogGateway

/-! ### Instances that cannot be told apart -/

/-- The instances may differ in how often the factory was run. -/
structure Instance.Like (s s' : Instance) : Prop where
  context : s.context? = s'.context?
  phase : s.phase = s'.phase

namespace Entrypoint

variable {e : Entrypoint} {f f' : FactoryRun AppContext} {s s' : Instance}

/-- What an invocation shows depends on what can be told of its instance, and on the factory if it is run. -/
theorem invoke_like (h : s.Like s') (hf : s.context? = none → f = f') (i : Invocation) :
    (e.invoke f s i).value.1 = (e.invoke f' s' i).value.1 ∧ (e.invoke f s i).log = (e.invoke f' s' i).log ∧
      (e.invoke f s i).value.2.Like (e.invoke f' s' i).value.2 := by
  cases hcontext : s.context? with
  | some context =>
    obtain ⟨run, hcell⟩ := Instance.context?_eq_some.1 hcontext
    obtain ⟨run', hcell'⟩ := Instance.context?_eq_some.1 (h.context.symm.trans hcontext)
    have hlike : ∀ phase, Instance.Like ⟨s.cache, phase⟩ ⟨s'.cache, phase⟩ := fun _ => ⟨h.context, rfl⟩
    cases hr : (e.handle context .handling i).value with
    | ok response =>
      simp [invoke, Cache.isInitialized, Cache.getOrInit_of_some hcell, Cache.getOrInit_of_some hcell', hcell, hcell',
        hr, hlike]
    | error message =>
      simp [invoke, Cache.isInitialized, Cache.getOrInit_of_some hcell, Cache.getOrInit_of_some hcell', hcell, hcell',
        hr, hlike]
  | none =>
    have hcell := Instance.context?_eq_none.1 hcontext
    have hcell' := Instance.context?_eq_none.1 (h.context.symm.trans hcontext)
    obtain rfl := hf hcontext
    cases hbuilt : f.value with
    | failed error =>
      have hlike : Instance.Like ⟨⟨none, s.cache.runs + 1⟩, .cold⟩ ⟨⟨none, s'.cache.runs + 1⟩, .cold⟩ := ⟨rfl, rfl⟩
      simp [invoke, Cache.isInitialized, Cache.getOrInit, hcell, hcell', hbuilt, hlike]
    | crashed message =>
      have hlike : Instance.Like ⟨⟨none, s.cache.runs + 1⟩, s.phase⟩ ⟨⟨none, s'.cache.runs + 1⟩, s'.phase⟩ :=
        ⟨rfl, h.phase⟩
      simp [invoke, Cache.isInitialized, Cache.getOrInit, hcell, hcell', hbuilt, hlike]
    | ready context =>
      have hlike : ∀ phase, Instance.Like ⟨⟨some ⟨context, s.cache.runs⟩, s.cache.runs + 1⟩, phase⟩
          ⟨⟨some ⟨context, s'.cache.runs⟩, s'.cache.runs + 1⟩, phase⟩ := fun _ => ⟨rfl, rfl⟩
      cases hr : (e.handle context .handling i).value with
      | ok response => simp [invoke, Cache.isInitialized, Cache.getOrInit, hcell, hcell', hbuilt, hr, hlike]
      | error message => simp [invoke, Cache.isInitialized, Cache.getOrInit, hcell, hcell', hbuilt, hr, hlike]

end Entrypoint

/-! ### Services that know the same -/

namespace Service

variable {v w : Service} {env : Environment} {past : List ServiceStep}

/-- The services know the same.  Once they have their context, their environments need not be the same. -/
structure Like (v w : Service) : Prop where
  settings : v.settings = w.settings
  current : v.current.Like w.current
  environment : v.current.context? = none → v.environment = w.environment

/-- A context is kept, whatever the step. -/
theorem context?_next {context : AppContext} (h : v.current.context? = some context) (step : ServiceStep) :
    (v.next step).current.context? = some context := by
  cases step with
  | invoke i => exact Entrypoint.context?_invoke (.inl h)
  | readContext => exact h
  | setEnvironment env => exact h

/-- Services that know the same show the same, and know the same afterwards. -/
theorem Like.step (h : v.Like w) (step : ServiceStep) :
    Shown.ofTaken step (v.step step) = .ofTaken step (w.step step) ∧ (v.next step).Like (w.next step) := by
  cases step with
  | readContext =>
    rw [ofTaken_readContext, ofTaken_readContext, h.current.context, h.current.phase]
    exact ⟨rfl, h⟩
  | setEnvironment env =>
    rw [ofTaken_setEnvironment, ofTaken_setEnvironment, h.current.phase]
    exact ⟨rfl, h.settings, h.current, fun _ => rfl⟩
  | invoke i =>
    have hentrypoint : v.entrypoint = w.entrypoint := by rw [entrypoint, entrypoint, h.settings]
    have hfactory : v.current.context? = none → v.factory = w.factory := by
      intro hnone
      rw [factory, factory, h.settings, h.environment hnone]
    have henvironment : (v.next (.invoke i)).current.context? = none → v.environment = w.environment := by
      intro hnone
      cases hbefore : v.current.context? with
      | none => exact h.environment hbefore
      | some context => cases (context?_next hbefore (.invoke i)).symm.trans hnone
    obtain ⟨hresult, hlog, hlike⟩ := Entrypoint.invoke_like (e := w.entrypoint) h.current hfactory i
    rw [next_invoke, hentrypoint] at henvironment
    rw [ofTaken_invoke, ofTaken_invoke, next_invoke, next_invoke, hentrypoint, hresult, hlog, hlike.phase]
    exact ⟨rfl, h.settings, hlike, henvironment⟩

theorem Like.trace (h : v.Like w) (steps : List ServiceStep) : v.trace steps = w.trace steps := by
  induction steps generalizing v w with
  | nil => rfl
  | cons step rest ih =>
    obtain ⟨hshown, hlike⟩ := h.step step
    rw [trace_cons, trace_cons, hshown, ih hlike]

/-! ### What is left out -/

/-- Environments that come too late are not seen. -/
theorem filter_trace {context : AppContext} (h : v.current.context? = some context) (steps : List ServiceStep) :
    (v.trace steps).filter (!·.step.replaces) = v.trace (steps.filter (!·.replaces)) := by
  induction steps generalizing v with
  | nil => rfl
  | cons step rest ih =>
    have hrest := ih (context?_next h step)
    rw [trace_cons]
    cases step with
    | setEnvironment env =>
      have hlike : (v.next (.setEnvironment env)).Like v := ⟨rfl, ⟨rfl, rfl⟩, fun hnone => by cases h.symm.trans hnone⟩
      exact hrest.trans (hlike.trace _)
    | invoke i => exact congrArg (_ :: ·) hrest
    | readContext => exact congrArg (_ :: ·) hrest

/-- An invocation that fails leaves the service as it was. -/
theorem Knows.next_like_of_failed (h : v.Knows env past) {step : ServiceStep}
    (hfailed : (Shown.ofTaken step (v.step step)).Failed) : (v.next step).Like v := by
  obtain ⟨error, herror⟩ := hfailed
  cases step with
  | readContext => cases herror
  | setEnvironment env => cases herror
  | invoke i =>
    rw [ofTaken_invoke] at herror
    cases hnow : CatalogSettings.captured? env (past ++ [.invoke i]) with
    | some settings =>
      exact absurd (StepResult.invoked.inj herror) (Entrypoint.invoke_ne_failed (h.provides hnow) error)
    | none =>
      obtain ⟨hpast, error, hrefused⟩ := CatalogSettings.captured?_invoke_eq_none.1 hnow
      have hcontext := h.context
      rw [hpast] at hcontext
      rw [next_invoke, h.value_invoke_of_refused hpast hrefused]
      exact ⟨rfl, ⟨hcontext.symm, (h.cold hpast).symm⟩, fun _ => rfl⟩

/-- The one trace is what is left of the other if failed invocations are left out, all or some of them. -/
inductive LeavesOut : List Shown → List Shown → Prop where
  | nil : LeavesOut [] []
  | keep (shown : Shown) {l kept : List Shown} (h : LeavesOut l kept) : LeavesOut (shown :: l) (shown :: kept)
  | leave {shown : Shown} (hfailed : shown.Failed) {l kept : List Shown} (h : LeavesOut l kept) :
    LeavesOut (shown :: l) kept

theorem LeavesOut.refl (l : List Shown) : LeavesOut l l := by
  induction l with
  | nil => exact .nil
  | cons shown rest ih => exact .keep shown ih

theorem Knows.trace_of_leavesOut (h : v.Knows env past) {steps : List ServiceStep} {kept : List Shown}
    (hkept : LeavesOut (v.trace steps) kept) : v.trace (kept.map (·.step)) = kept := by
  induction steps generalizing v past kept with
  | nil =>
    cases hkept
    rfl
  | cons step rest ih =>
    rw [trace_cons] at hkept
    cases hkept with
    | keep _ hrest => exact congrArg (_ :: ·) (ih (h.next step) hrest)
    | leave hfailed hrest =>
      -- without the step the rest is taken from a service that knows the same
      rw [← (h.next_like_of_failed hfailed).trace]
      exact ih (h.next step) hrest

/-! ### The laws -/

/-- What is seen of a step follows from the settings of the gateway, the environment at the start and the steps of the
past. -/
structure Shown.Lawful (gateway : GatewaySettings) (env : Environment) (past : List ServiceStep) (shown : Shown) :
    Prop where
  /-- As long as no settings were accepted, an invocation in an environment that is not accepted fails. -/
  fails : ∀ i error, shown.step = .invoke i → CatalogSettings.captured? env past = none →
    CatalogSettings.ofEnvironment (env.after past) = .error error →
    shown.result = .invoked (.failed (.ofMessage error.message))
  /-- All other invocations end as in a new instance with a catalog of the settings that were accepted. -/
  answers : ∀ i settings, shown.step = .invoke i → CatalogSettings.captured? env (past ++ [.invoke i]) = some settings →
    shown.result = .invoked (Entrypoint.invoke ⟨gateway.stripStage, gateway.margin⟩
      (Catalog.buildContext gateway.service settings) {} i).value.1
  /-- The context is that of the settings that were accepted. -/
  reads : ∀ settings, shown.step = .readContext → CatalogSettings.captured? env past = some settings →
    ∃ context, (Catalog.buildContext gateway.service settings).value = .ready context ∧
      shown.result = .context (some context)
  blank : shown.step = .readContext → CatalogSettings.captured? env past = none → shown.result = .context none

theorem Knows.lawful (h : v.Knows env past) (step : ServiceStep) :
    (Shown.ofTaken step (v.step step)).Lawful (GatewaySettings.ofEnvironment env).value env past := by
  have hcontext := h.context
  rw [← h.settings]
  constructor
  case fails =>
    intro i error hstep hpast herror
    obtain rfl : step = .invoke i := hstep
    rw [ofTaken_invoke, h.value_invoke_of_refused hpast herror]
  case answers =>
    intro i settings hstep hnow
    obtain rfl : step = .invoke i := hstep
    have hnew : Instance.Provides {} (Catalog.buildContext v.settings.service settings)
        ⟨v.settings.service, Catalog.table v.settings.service settings⟩ :=
      .inr ⟨rfl, Catalog.value_buildContext _ _⟩
    rw [ofTaken_invoke]
    exact congrArg _ (Entrypoint.value_invoke_fst_congr hnew (h.provides hnow) rfl)
  case reads =>
    intro settings hstep hpast
    obtain rfl : step = .readContext := hstep
    rw [hpast] at hcontext
    exact ⟨_, Catalog.value_buildContext _ _, congrArg _ hcontext⟩
  case blank =>
    intro hstep hpast
    obtain rfl : step = .readContext := hstep
    rw [hpast] at hcontext
    exact congrArg _ hcontext

theorem Knows.lawful_of_trace (h : v.Knows env past) {steps : List ServiceStep} {earlier later : List Shown}
    {shown : Shown} (htrace : v.trace steps = earlier ++ shown :: later) :
    shown.Lawful (GatewaySettings.ofEnvironment env).value env (past ++ earlier.map (·.step)) := by
  induction earlier generalizing v past steps with
  | nil =>
    cases steps with
    | nil => cases htrace
    | cons step rest =>
      obtain ⟨rfl, -⟩ := List.cons.inj htrace
      rw [List.map_nil, List.append_nil]
      exact h.lawful step
  | cons first earlier ih =>
    cases steps with
    | nil => cases htrace
    | cons step rest =>
      obtain ⟨rfl, hrest⟩ := List.cons.inj htrace
      have hlawful := ih (h.next step) hrest
      rw [List.append_assoc] at hlawful
      exact hlawful

theorem map_step_trace (v : Service) (steps : List ServiceStep) : (v.trace steps).map (·.step) = steps := by
  induction steps generalizing v with
  | nil => rfl
  | cons step rest ih => exact congrArg (step :: ·) (ih _)

/-- What holds of all that is seen of a service that started in an environment. -/
structure Laws (env : Environment) (v : Service) : Prop where
  complete : ∀ steps, (v.trace steps).map (·.step) = steps
  lawful : ∀ steps earlier shown later, v.trace steps = earlier ++ shown :: later →
    shown.Lawful (GatewaySettings.ofEnvironment env).value env (earlier.map (·.step))
  /-- Once settings of the catalog were accepted, it does not matter how the environment is replaced. -/
  frozen : ∀ past later later', CatalogSettings.captured? env past ≠ none →
    later.filter (!·.replaces) = later'.filter (!·.replaces) →
    (v.trace (past ++ later)).filter (!·.step.replaces) = (v.trace (past ++ later')).filter (!·.step.replaces)
  /-- Without some of the invocations that failed, the same is seen of all other steps. -/
  forgotten : ∀ steps kept, LeavesOut (v.trace steps) kept → v.trace (kept.map (·.step)) = kept

end Service

/-- The settings of the gateway are those at the start, the settings of the catalog those that are accepted first, and
failures are forgotten. -/
theorem service_laws (env : Environment) : (Service.start env).value.Laws env := by
  have hstart := Service.knows_start env
  constructor
  case complete => exact Service.map_step_trace _
  case lawful => exact fun steps earlier shown later htrace => hstart.lawful_of_trace htrace
  case forgotten => exact fun steps kept hkept => hstart.trace_of_leavesOut hkept
  case frozen =>
    intro past later later' hpast hsame
    obtain ⟨settings, hsettings⟩ := Option.ne_none_iff_exists'.1 hpast
    have hcontext := (hstart.after past).context
    rw [List.nil_append, hsettings] at hcontext
    rw [Service.trace_append, Service.trace_append, List.filter_append, List.filter_append,
      Service.filter_trace hcontext, Service.filter_trace hcontext, hsame]

namespace Sample

/-- An environment that asks for a reference with two dots in a row. -/
def misnamed : Environment := ⟨[("CATALOG_REFERENCES", Text.Utf8.encode "a..b")]⟩

def ping : Invocation := { payload := .null, requestId := "ping" }

/-- The environment is mended, the catalog is built, and the mistake comes back. -/
def mended : List ServiceStep := [.setEnvironment {}, .invoke ping, .setEnvironment misnamed]

theorem ofEnvironment_misnamed : CatalogSettings.ofEnvironment misnamed = .error ⟨"a..b"⟩ := by
  have htext : misnamed.text? "CATALOG_REFERENCES" = some "a..b" := Text.Utf8.decode?_encode "a..b"
  have hbranch : CatalogSettings.readDefaultBranch misnamed = "main" := rfl
  unfold CatalogSettings.ofEnvironment CatalogSettings.readReferences
  rw [hbranch, htext]
  decide +kernel

end Sample

/-- An invocation before the environment is mended fails.  The context that is seen in the end is that of the mended
environment, and without the failed invocation it is no other. -/
theorem service_laws_mended :
    let v := (Service.start Sample.misnamed).value
    ∃ failed earlier last context,
      v.trace (.invoke Sample.ping :: (Sample.mended ++ [.readContext])) = failed :: (earlier ++ [last]) ∧
      failed.Failed ∧ v.trace (Sample.mended ++ [.readContext]) = earlier ++ [last] ∧
      (Catalog.buildContext "catalog-lambda" {}).value = .ready context ∧ last.result = .context (some context) := by
  intro v
  have hlaws := service_laws Sample.misnamed
  let next := v.next (.invoke Sample.ping)
  let last := Service.Shown.ofTaken .readContext ((next.after Sample.mended).step .readContext)
  have htrace : v.trace (.invoke Sample.ping :: (Sample.mended ++ [.readContext])) =
      .ofTaken (.invoke Sample.ping) (v.step (.invoke Sample.ping)) :: (next.trace Sample.mended ++ [last]) := by
    rw [Service.trace_cons, Service.trace_append]
    rfl
  have hfails := (hlaws.lawful _ [] _ _ htrace).fails _ _ rfl rfl Sample.ofEnvironment_misnamed
  have hforgotten := hlaws.forgotten _ _ (htrace ▸ Service.LeavesOut.leave ⟨_, hfails⟩ (.refl _))
  have hsteps : (next.trace Sample.mended ++ [last]).map (·.step) = Sample.mended ++ [.readContext] := by
    rw [List.map_append, next.map_step_trace]
    rfl
  rw [hsteps] at hforgotten
  have hcaptured : CatalogSettings.captured? Sample.misnamed (.invoke Sample.ping :: Sample.mended) = some {} := by
    decide +kernel
  rw [← next.map_step_trace Sample.mended] at hcaptured
  have hlast := hlaws.lawful _ (_ :: next.trace Sample.mended) last [] htrace
  obtain ⟨context, hcontext, hread⟩ := hlast.reads {} rfl hcaptured
  exact ⟨_, _, last, context, htrace, ⟨_, hfails⟩, hforgotten, hcontext, hread⟩

end CatalogGateway
