import CatalogGateway.Proofs.Catalog.References
import CatalogGateway.Proofs.Service.Knowledge
import CatalogGateway.Proofs.Text.Blank

/-!
# The name of the service

Two variables can give the service its name, and the first one whose value can be used should
(`Environment.NamesService`).  The second one counts only where the first is unset, so a blank name in the first hides
the second (`Environment.HidesFunction`).  Whatever the name is, the contexts of the service and its health endpoints
tell it (`service_named`).
-/

namespace CatalogGateway

namespace Environment

/-- The variable is set to a text that is more than blanks. -/
def Usable (env : Environment) (name text : String) : Prop :=
  env.text? name = some text ∧ ∃ c ∈ text.toList, Text.isBlank c = false

/-- The name for the service: that of the first of the two variables that can be used, or else a fixed one. -/
inductive NamesService (env : Environment) : String → Prop where
  | service {text : String} (h : env.Usable "SERVICE_NAME" text) : NamesService env text
  | function {text : String} (hservice : ∀ other, ¬ env.Usable "SERVICE_NAME" other)
    (h : env.Usable "AWS_LAMBDA_FUNCTION_NAME" text) : NamesService env text
  | neither (hservice : ∀ other, ¬ env.Usable "SERVICE_NAME" other)
    (hfunction : ∀ other, ¬ env.Usable "AWS_LAMBDA_FUNCTION_NAME" other) : NamesService env "catalog-lambda"

/-- The name of the service is set to blanks, while that of the function could be used. -/
def HidesFunction (env : Environment) : Prop :=
  (∃ text, env.text? "SERVICE_NAME" = some text ∧ ∀ c ∈ text.toList, Text.isBlank c = true) ∧
    ∃ text, env.Usable "AWS_LAMBDA_FUNCTION_NAME" text

end Environment

namespace GatewaySettings

variable {env : Environment} {text : String}

theorem usable_iff {name : String} : env.Usable name text ↔ env.text? name = some text ∧ Text.trim text ≠ "" := by
  rw [Environment.Usable, ne_eq, Text.trim_eq_empty_iff]
  simp

/-- The name that is read is that of the first variable that is set, if it can be used. -/
theorem readService_of_service (h : env.text? "SERVICE_NAME" = some text) :
    readService env = if Text.trim text = "" then "catalog-lambda" else text := by
  by_cases hblank : Text.trim text = "" <;> simp [readService, h, hblank, Option.filter_some]

theorem readService_of_function (hservice : env.text? "SERVICE_NAME" = none)
    (h : env.text? "AWS_LAMBDA_FUNCTION_NAME" = some text) :
    readService env = if Text.trim text = "" then "catalog-lambda" else text := by
  by_cases hblank : Text.trim text = "" <;> simp [readService, hservice, h, hblank, Option.filter_some]

theorem readService_of_neither (hservice : env.text? "SERVICE_NAME" = none)
    (hfunction : env.text? "AWS_LAMBDA_FUNCTION_NAME" = none) : readService env = "catalog-lambda" := by
  simp [readService, hservice, hfunction]

theorem namesService_readService (h : ¬ env.HidesFunction) : env.NamesService (readService env) := by
  have hunset : ∀ {name}, env.text? name = none → ∀ other, ¬ env.Usable name other := by
    intro name hnone other husable
    rw [Environment.Usable, hnone] at husable
    cases husable.1
  have hblank : ∀ {name text}, env.text? name = some text → Text.trim text = "" →
      ∀ other, ¬ env.Usable name other := by
    intro name text htext htrim other husable
    rw [usable_iff, htext, Option.some.injEq] at husable
    exact husable.2 (husable.1 ▸ htrim)
  cases hservice : env.text? "SERVICE_NAME" with
  | some text =>
    rw [readService_of_service hservice]
    by_cases htrim : Text.trim text = ""
    · rw [if_pos htrim]
      refine .neither (hblank hservice htrim) fun other husable => h ⟨⟨text, hservice, ?_⟩, other, husable⟩
      exact Text.trim_eq_empty_iff.1 htrim
    · rw [if_neg htrim]
      exact .service (usable_iff.2 ⟨hservice, htrim⟩)
  | none =>
    cases hfunction : env.text? "AWS_LAMBDA_FUNCTION_NAME" with
    | none =>
      rw [readService_of_neither hservice hfunction]
      exact .neither (hunset hservice) (hunset hfunction)
    | some text =>
      rw [readService_of_function hservice hfunction]
      by_cases htrim : Text.trim text = ""
      · rw [if_pos htrim]
        exact .neither (hunset hservice) (hblank hfunction htrim)
      · rw [if_neg htrim]
        exact .function (hunset hservice) (usable_iff.2 ⟨hfunction, htrim⟩)

theorem readService_of_hidesFunction (h : env.HidesFunction) : readService env = "catalog-lambda" := by
  obtain ⟨⟨text, htext, hblank⟩, -⟩ := h
  rw [readService_of_service htext, if_pos (Text.trim_eq_empty_iff.2 hblank)]

end GatewaySettings

/-! ### Where the name is told -/

namespace Catalog

variable {service : String} {settings : CatalogSettings} {e : Entrypoint} {factory : FactoryRun AppContext}
  {s : Instance} {i : Invocation} {m : Message} {path : String}

/-- The segments of the paths of the health endpoints. -/
def healthSegments : List (List String) := [["health", "live"], ["health", "ready"]]

theorem exists_health (hc : s.Provides factory ⟨service, table service settings⟩) (h : i.Gets e.stripStage m path)
    (hpath : pathSegments path ∈ healthSegments) :
    ∃ envelope, (e.invoke factory s i).value.1 = .answered envelope ∧
      envelope.Delivers Health.ofJson ⟨"ok", service⟩ := by
  obtain ⟨request, hread, hmethod, hrequest, -⟩ := h.exists_request
  have hdelivers := Envelope.delivers_json (Health.plain_toJson ⟨"ok", service⟩) (Health.ofJson_toJson _)
  simp only [healthSegments, List.mem_cons, List.not_mem_nil, or_false] at hpath
  rcases hpath with hpath | hpath
  · have hroute := @resolve_endpoint service settings .live path (by rw [hpath]; rfl)
    rw [← hmethod, ← hrequest] at hroute
    exact ⟨_, Entrypoint.value_invoke_fst_of_response hc hread hroute rfl rfl, hdelivers⟩
  · have hroute := @resolve_endpoint service settings .ready path (by rw [hpath]; rfl)
    rw [← hmethod, ← hrequest] at hroute
    exact ⟨_, Entrypoint.value_invoke_fst_of_response hc hread hroute rfl rfl, hdelivers⟩

end Catalog

namespace Service

/-- The contexts that a service works with are catalogs of its name. -/
theorem Knows.exists_table {v : Service} {env : Environment} {past : List ServiceStep} {context : AppContext}
    (h : v.Knows env past) (hc : v.current.Provides v.factory context) :
    ∃ settings, context = ⟨v.settings.service, Catalog.table v.settings.service settings⟩ := by
  rcases hc with hcontext | ⟨-, hfactory⟩
  · rw [h.context] at hcontext
    obtain ⟨settings, -, rfl⟩ := Option.map_eq_some_iff.1 hcontext
    exact ⟨settings, rfl⟩
  · unfold factory at hfactory
    cases hsettings : CatalogSettings.ofEnvironment v.environment with
    | error error =>
      rw [Catalog.value_contextOfEnvironment_of_error _ hsettings] at hfactory
      cases hfactory
    | ok settings =>
      rw [Catalog.value_contextOfEnvironment _ _ hsettings] at hfactory
      exact ⟨settings, (Built.ready.inj hfactory).symm⟩

/-- The service has the name, and tells it wherever it tells one. -/
structure GoesBy (v : Service) (name : String) : Prop where
  settings : v.settings.service = name
  /-- Each context that there is, or that the factory builds for an invocation, has the name. -/
  context : ∀ past context, (v.after past).current.Provides (v.after past).factory context → context.service = name
  /-- A context that is read has the name. -/
  read : ∀ past context, ((v.after past).step .readContext).value.1 = .context (some context) →
    context.service = name
  /-- With a context, the health endpoints answer with the name. -/
  health : ∀ past context i m path, (v.after past).current.Provides (v.after past).factory context →
    i.Gets v.settings.stripStage m path → pathSegments path ∈ Catalog.healthSegments →
    ∃ envelope, ((v.after past).step (.invoke i)).value.1 = .invoked (.answered envelope) ∧
      envelope.Delivers Catalog.Health.ofJson ⟨"ok", name⟩

theorem goesBy_start (env : Environment) : (start env).value.GoesBy (GatewaySettings.readService env) := by
  have hsettings : (start env).value.settings.service = GatewaySettings.readService env := rfl
  have hknows : ∀ past, ((start env).value.after past).Knows env past := (knows_start env).after
  have hafter : ∀ past, ((start env).value.after past).settings = (start env).value.settings :=
    fun past => (hknows past).settings.trans (knows_start env).settings.symm
  have hcontext : ∀ past context,
      ((start env).value.after past).current.Provides ((start env).value.after past).factory context →
      ∃ settings, context =
        ⟨GatewaySettings.readService env, Catalog.table (GatewaySettings.readService env) settings⟩ := by
    intro past context hc
    obtain ⟨settings, heq⟩ := (hknows past).exists_table hc
    rw [hafter past, hsettings] at heq
    exact ⟨settings, heq⟩
  constructor
  case settings => exact hsettings
  case context =>
    intro past context hc
    obtain ⟨settings, rfl⟩ := hcontext past context hc
    rfl
  case read =>
    intro past context hread
    obtain ⟨settings, rfl⟩ := hcontext past context (.inl (StepResult.context.inj hread))
    rfl
  case health =>
    intro past context i m path hc hgets hpath
    obtain ⟨settings, rfl⟩ := hcontext past context hc
    have hstrip : ((start env).value.after past).entrypoint.stripStage = (start env).value.settings.stripStage := by
      rw [entrypoint, hafter past]
    rw [← hstrip] at hgets
    obtain ⟨envelope, hinvoke, hdelivers⟩ := Catalog.exists_health hc hgets hpath
    exact ⟨envelope, congrArg StepResult.invoked hinvoke, hdelivers⟩

end Service

/-- A service goes by the name that its environment gives it when it starts, but for a blank name that hides that of the
function: the fixed name stands in for it then. -/
theorem service_named (env : Environment) : ∃ name, (GatewaySettings.ofEnvironment env).value.service = name ∧
    (¬ env.HidesFunction → env.NamesService name) ∧ (env.HidesFunction → name = "catalog-lambda") ∧
    (Service.start env).value.GoesBy name :=
  ⟨GatewaySettings.readService env, rfl, GatewaySettings.namesService_readService,
    GatewaySettings.readService_of_hidesFunction, Service.goesBy_start env⟩

namespace Sample

/-- An environment with a blank name for the service. -/
def nameless : Environment :=
  ⟨[("SERVICE_NAME", Text.Utf8.encode " "), ("AWS_LAMBDA_FUNCTION_NAME", Text.Utf8.encode "catalog-prod")]⟩

end Sample

/-- The name of the function is not taken in place of a blank name of the service. -/
theorem not_every_service_named :
    ¬ ∀ env : Environment, env.NamesService (GatewaySettings.ofEnvironment env).value.service := by
  intro hclaim
  have hservice : Sample.nameless.text? "SERVICE_NAME" = some " " := Text.Utf8.decode?_encode " "
  have hfunction : Sample.nameless.text? "AWS_LAMBDA_FUNCTION_NAME" = some "catalog-prod" :=
    Text.Utf8.decode?_encode "catalog-prod"
  have husable : Sample.nameless.Usable "AWS_LAMBDA_FUNCTION_NAME" "catalog-prod" := ⟨hfunction, 'c', by decide⟩
  have hblank : ∀ c ∈ " ".toList, Text.isBlank c = true := by
    intro c hc
    obtain rfl : c = ' ' := by simpa using hc
    decide
  have hhides : Sample.nameless.HidesFunction := ⟨⟨" ", hservice, hblank⟩, "catalog-prod", husable⟩
  have hname : Sample.nameless.NamesService "catalog-lambda" := by
    rw [← GatewaySettings.readService_of_hidesFunction hhides]
    exact hclaim Sample.nameless
  cases hname with
  | service h =>
    have heq := h.1
    rw [hservice] at heq
    exact absurd heq (by decide)
  | function hnone h =>
    have heq := h.1
    rw [hfunction] at heq
    exact absurd heq (by decide)
  | neither hnone hnone' => exact hnone' _ husable

end CatalogGateway
