import CatalogGateway.Proofs.Catalog.Application
import CatalogGateway.Proofs.Entrypoint.Invocation
import CatalogGateway.Service

/-!
# What a service knows

A service reads the settings of its gateway when it starts, and those of the catalog until they are accepted.  Each step
keeps the invariant that between the steps it knows these settings and its environment, and nothing else of the past
(`Service.Knows.next`), so every run does (`Service.Knows.after`).
-/

namespace CatalogGateway

/-! ### What a service shows -/

/-- The environment after a step. -/
def Environment.next (env : Environment) : ServiceStep → Environment
  | .setEnvironment env' => env'
  | _ => env

/-- The environment after the steps of a service. -/
def Environment.after (env : Environment) (steps : List ServiceStep) : Environment := steps.foldl Environment.next env

/-- The settings that a step can capture: an invocation captures those that are accepted. -/
def CatalogSettings.offered? (env : Environment) : ServiceStep → Option CatalogSettings
  | .invoke _ => (CatalogSettings.ofEnvironment env).toOption
  | .readContext | .setEnvironment _ => none

/-- The settings of the catalog after the steps: those in the environment at the first invocation that accepts them. -/
def CatalogSettings.captured? (env : Environment) : List ServiceStep → Option CatalogSettings
  | [] => none
  | step :: rest => (offered? env step).or (captured? (env.next step) rest)

/-- The step replaces the environment. -/
def ServiceStep.replaces : ServiceStep → Bool
  | .setEnvironment _ => true
  | .invoke _ | .readContext => false

theorem CatalogSettings.captured?_concat (env : Environment) (past : List ServiceStep) (step : ServiceStep) :
    captured? env (past ++ [step]) = (captured? env past).or (offered? (env.after past) step) := by
  induction past generalizing env with
  | nil => simp [captured?, Environment.after]
  | cons first rest ih =>
    rw [List.cons_append, captured?, captured?, ih, Option.or_assoc]
    rfl

/-- Nothing is captured by an invocation as long as the environments are not accepted. -/
theorem CatalogSettings.captured?_invoke_eq_none {env : Environment} {past : List ServiceStep} {i : Invocation} :
    captured? env (past ++ [.invoke i]) = none ↔
      captured? env past = none ∧ ∃ error, ofEnvironment (env.after past) = .error error := by
  rw [captured?_concat, Option.or_eq_none_iff, offered?]
  cases ofEnvironment (env.after past) with
  | ok settings => simp [Except.toOption]
  | error error => simp [Except.toOption]

theorem Environment.after_concat (env : Environment) (past : List ServiceStep) (step : ServiceStep) :
    env.after (past ++ [step]) = (env.after past).next step := by
  rw [after, List.foldl_append]
  rfl

namespace Service

/-- What is seen of a step. -/
structure Shown where
  step : ServiceStep
  result : StepResult
  /-- The phase after it. -/
  phase : Phase
  log : List LogEntry

/-- What is seen of a step that was taken. -/
def Shown.ofTaken (step : ServiceStep) (taken : Logged LogEntry (StepResult × Service)) : Shown :=
  ⟨step, taken.value.1, taken.value.2.current.phase, taken.log⟩

/-- The step was an invocation that failed for the lack of a context. -/
def Shown.Failed (shown : Shown) : Prop := ∃ error, shown.result = .invoked (.failed error)

/-- What is seen of the steps, one after the other. -/
def trace (v : Service) (steps : List ServiceStep) : List Shown := List.zipWith Shown.ofTaken steps (v.run steps)

def next (v : Service) (step : ServiceStep) : Service := (v.step step).value.2

def after (v : Service) (steps : List ServiceStep) : Service := steps.foldl next v

theorem trace_cons (v : Service) (step : ServiceStep) (rest : List ServiceStep) :
    v.trace (step :: rest) = .ofTaken step (v.step step) :: (v.next step).trace rest := rfl

theorem trace_append (v : Service) (steps later : List ServiceStep) :
    v.trace (steps ++ later) = v.trace steps ++ (v.after steps).trace later := by
  induction steps generalizing v with
  | nil => rfl
  | cons step rest ih =>
    rw [List.cons_append, trace_cons, trace_cons, ih, List.cons_append]
    rfl

/-- What the context factory does if it is run now. -/
def factory (v : Service) : FactoryRun AppContext := Catalog.contextOfEnvironment v.settings.service v.environment

section Steps

variable (v : Service)

theorem ofTaken_invoke (i : Invocation) : Shown.ofTaken (.invoke i) (v.step (.invoke i)) =
    ⟨.invoke i, .invoked (v.entrypoint.invoke v.factory v.current i).value.1,
      (v.entrypoint.invoke v.factory v.current i).value.2.phase, (v.entrypoint.invoke v.factory v.current i).log⟩ := by
  simp [Shown.ofTaken, step, factory]

theorem next_invoke (i : Invocation) :
    v.next (.invoke i) = { v with current := (v.entrypoint.invoke v.factory v.current i).value.2 } := rfl

theorem ofTaken_readContext : Shown.ofTaken .readContext (v.step .readContext) =
    ⟨.readContext, .context v.current.context?, v.current.phase, []⟩ := rfl

theorem next_readContext : v.next .readContext = v := rfl

theorem ofTaken_setEnvironment (env : Environment) :
    Shown.ofTaken (.setEnvironment env) (v.step (.setEnvironment env)) =
      ⟨.setEnvironment env, .done, v.current.phase, []⟩ := rfl

theorem next_setEnvironment (env : Environment) : v.next (.setEnvironment env) = { v with environment := env } := rfl

end Steps

/-! ### What a service knows -/

/-- The state of a service that started in an environment, after the steps of its past. -/
structure Knows (env : Environment) (past : List ServiceStep) (v : Service) : Prop where
  settings : v.settings = (GatewaySettings.ofEnvironment env).value
  environment : v.environment = env.after past
  context : v.current.context? = (CatalogSettings.captured? env past).map fun settings =>
    ⟨v.settings.service, Catalog.table v.settings.service settings⟩
  cold : CatalogSettings.captured? env past = none → v.current.phase = .cold

variable {v : Service} {env : Environment} {past : List ServiceStep} {i : Invocation}

theorem knows_start (env : Environment) : (start env).value.Knows env [] := ⟨rfl, rfl, rfl, fun _ => rfl⟩

theorem Knows.provides (h : v.Knows env past) {settings : CatalogSettings}
    (hs : CatalogSettings.captured? env (past ++ [.invoke i]) = some settings) :
    v.current.Provides v.factory ⟨v.settings.service, Catalog.table v.settings.service settings⟩ := by
  have hcontext := h.context
  rw [CatalogSettings.captured?_concat] at hs
  cases hpast : CatalogSettings.captured? env past with
  | some before =>
    rw [hpast] at hs hcontext
    obtain rfl := Option.some.inj hs
    exact .inl hcontext
  | none =>
    rw [hpast] at hs hcontext
    rw [CatalogSettings.offered?, ← h.environment] at hs
    cases haccepted : CatalogSettings.ofEnvironment v.environment with
    | error error =>
      rw [haccepted] at hs
      cases hs
    | ok accepted =>
      rw [haccepted] at hs
      obtain rfl := Option.some.inj hs
      exact .inr ⟨hcontext, Catalog.value_contextOfEnvironment _ _ haccepted⟩

theorem Knows.value_invoke_of_refused (h : v.Knows env past) {error : ReferenceError}
    (hpast : CatalogSettings.captured? env past = none)
    (herror : CatalogSettings.ofEnvironment (env.after past) = .error error) :
    (v.entrypoint.invoke v.factory v.current i).value =
      (.failed (.ofMessage error.message), ⟨⟨none, v.current.cache.runs + 1⟩, .cold⟩) := by
  have hcontext := h.context
  rw [hpast] at hcontext
  rw [← h.environment] at herror
  have hcell := Instance.context?_eq_none.1 hcontext
  exact Entrypoint.value_invoke_of_failed
    (Cache.value_getOrInit_of_failed hcell (Catalog.value_contextOfEnvironment_of_error _ herror))

/-- Each step adds itself to the past. -/
theorem Knows.next (h : v.Knows env past) (step : ServiceStep) : (v.next step).Knows env (past ++ [step]) := by
  have henv := Environment.after_concat env past step
  have hcaptured := CatalogSettings.captured?_concat env past step
  cases step with
  | readContext =>
    rw [CatalogSettings.offered?, Option.or_none] at hcaptured
    rw [next_readContext]
    exact ⟨h.settings, h.environment.trans henv.symm, hcaptured ▸ h.context, hcaptured ▸ h.cold⟩
  | setEnvironment env' =>
    rw [CatalogSettings.offered?, Option.or_none] at hcaptured
    rw [next_setEnvironment]
    exact ⟨h.settings, henv.symm, hcaptured ▸ h.context, hcaptured ▸ h.cold⟩
  | invoke i =>
    rw [next_invoke]
    cases hnow : CatalogSettings.captured? env (past ++ [.invoke i]) with
    | some settings =>
      have hcontext := Entrypoint.context?_invoke (e := v.entrypoint) (i := i) (h.provides hnow)
      exact ⟨h.settings, h.environment.trans henv.symm, by rw [hnow]; exact hcontext, by rw [hnow]; nofun⟩
    | none =>
      obtain ⟨hpast, error, herror⟩ := CatalogSettings.captured?_invoke_eq_none.1 hnow
      rw [h.value_invoke_of_refused hpast herror]
      exact ⟨h.settings, h.environment.trans henv.symm, by rw [hnow]; rfl, fun _ => rfl⟩

theorem Knows.after (h : v.Knows env past) (steps : List ServiceStep) : (v.after steps).Knows env (past ++ steps) := by
  induction steps generalizing v past with
  | nil => rwa [List.append_nil]
  | cons step rest ih =>
    rw [List.append_cons]
    exact ih (h.next step)

end Service

end CatalogGateway
