import CatalogGateway.Proofs.Answer.Recovery
import CatalogGateway.Proofs.Catalog.References
import CatalogGateway.Proofs.Route.Alike
import CatalogGateway.Proofs.Route.Allow

/-!
# Whose problem it is

An invocation that is read through runs into trouble, or a handler responds in time
(`Entrypoint.runsInto_or_responds`).  Of the problem documents that invocations of the catalog are answered with, that
about a reference which there is not tells the identifier that the event gives the request, and every other one that of
the invocation (`problems_identified`).
-/

namespace CatalogGateway

/-- The document names the request with an identifier, or none if that is empty. -/
def Problem.Names (p : Problem) (requestId : String) : Prop :=
  p.instanceId = if requestId = "" then none else some requestId

/-- An envelope carries no more than one problem. -/
theorem Envelope.Tells.unique {envelope : Envelope} {p p' : Problem} (h : envelope.Tells p) (h' : envelope.Tells p') :
    p = p' := by
  obtain ⟨v, hv, hp⟩ := h.body
  obtain ⟨v', hv', hp'⟩ := h'.body
  rw [hv] at hv'
  obtain rfl := Option.some.inj hv'
  rw [hp] at hp'
  exact Except.ok.inj hp'

/-! ### Trouble or a response -/

/-- In time, the handler that the request gets to responds. -/
structure Entrypoint.Responds (e : Entrypoint) (context : AppContext) (i : Invocation) (request : Request)
    (response : Response) : Prop where
  read : Event.requestOfPayload i.payload e.stripStage = .ok request
  intime : ¬ e.Overruns i (e.dispatch context i request).duration
  result : (e.dispatch context i request).result = .ok response

namespace Entrypoint

variable {e : Entrypoint} {context : AppContext} {i : Invocation} {request : Request} {response : Response}

theorem Responds.value_handle (h : e.Responds context i request response) :
    (e.handle context .handling i).value = .ok response := by
  rw [value_handle_of_ok h.read, value_answer_of_ok h.intime h.result]

/-- There is nothing else that can happen to an invocation with a context. -/
theorem runsInto_or_responds (e : Entrypoint) (context : AppContext) (i : Invocation)
    (hread : Event.requestOfPayload i.payload e.stripStage ≠ .error .tooManyHeaders) :
    (∃ trouble, e.RunsInto context i trouble) ∨ ∃ request response, e.Responds context i request response := by
  cases hrequest : Event.requestOfPayload i.payload e.stripStage with
  | error failure =>
    cases failure with
    | rejected error => exact .inl ⟨_, .malformed hrequest⟩
    | tooManyHeaders => exact absurd hrequest hread
  | ok request =>
    have hfinds := context.routes.finds_resolve request.method request.path
    generalize hroute : context.routes.resolve request.method request.path = found at hfinds
    cases hfinds with
    | nothing hpath => exact .inl ⟨_, .unmatched hrequest hpath⟩
    | others hpath hmethod => exact .inl ⟨_, .wrongMethod hrequest hpath hmethod⟩
    | route _ hit =>
      obtain ⟨route, params⟩ := hit
      have hduration := RouteTable.duration_dispatchDuring_of_ok hroute (e.phaseAt .handling i)
      have hresult := RouteTable.result_dispatchDuring_of_ok hroute (e.phaseAt .handling i)
      by_cases hover : e.Overruns i (route.handler ⟨request, params, e.phaseAt .handling i⟩).duration
      · exact .inl ⟨_, .overdue hrequest hroute hover⟩
      · cases hrun : (route.handler ⟨request, params, e.phaseAt .handling i⟩).result with
        | response response =>
          rw [hrun] at hresult
          exact .inr ⟨request, response, hrequest, hduration ▸ hover, hresult⟩
        | failure cause => exact .inl ⟨_, .handlerFailed hrequest hroute hover (by rw [hrun]; nofun)⟩
        | crash message => exact .inl ⟨_, .handlerFailed hrequest hroute hover (by rw [hrun]; nofun)⟩

end Entrypoint

/-! ### The handlers of the catalog -/

/-- Two handlers that come to the same for each call, whatever time they take for it and whatever they record. -/
def Handler.SameResults (h h' : Handler) : Prop := ∀ call, (h' call).result = (h call).result

theorem RouteTable.Alike.result_dispatchDuring {t t' : RouteTable} (h : t.Alike Handler.SameResults t')
    (request : Request) (phaseAt : Nat → Phase) :
    (t'.dispatchDuring request phaseAt).result = (t.dispatchDuring request phaseAt).result := by
  rcases h.resolve request.method request.path with
    ⟨error, herror, herror'⟩ | ⟨route, route', params, hroute, hroute', halike⟩
  · rw [result_dispatchDuring_of_error herror, result_dispatchDuring_of_error herror']
  · rw [result_dispatchDuring_of_ok hroute, result_dispatchDuring_of_ok hroute', halike.handler, halike.meaning]

/-- The context is that of the catalog, but that its handlers may take any time. -/
def AppContext.OfCatalog (context : AppContext) (service : String) (settings : CatalogSettings) : Prop :=
  ∃ built, (Catalog.buildContext service settings).value = .ready built ∧
    built.routes.Alike Handler.SameResults context.routes

namespace Catalog

/-- The problem of a reference that there is not. -/
def missingReference (name requestId : String) : Problem :=
  .notFound ("Named reference '" ++ name ++ "' not found") requestId

/-- What a handler of the catalog responds with: a document of its own, or the problem of a reference. -/
inductive Endpoint.Responds (settings : CatalogSettings) (requestId : String) : Endpoint → Response → Prop where
  | document {endpoint : Endpoint} {v : Json} (hv : v.Plain Json.maxDepth) :
    Responds settings requestId endpoint (.json v)
  | missing {name : String} (h : name ∉ settings.references) :
    Responds settings requestId (.reference name) (missingReference name requestId).toResponse

/-- A request that asks for a reference that there is not. -/
structure AsksForMissing (settings : CatalogSettings) (request : Request) (name : String) : Prop where
  method : request.method = .get
  endpoint : Endpoint.ofSegments? (pathSegments request.path) = some (.reference name)
  missing : name ∉ settings.references

variable {service : String} {settings : CatalogSettings} {request : Request} {phaseAt : Nat → Phase}

theorem Endpoint.exists_responds (endpoint : Endpoint) (request : Request) (phaseAt : Nat → Phase) :
    ∃ response,
      ((endpoint.route service settings).handler ⟨request, endpoint.params, phaseAt⟩).result = .response response ∧
      endpoint.Responds settings request.requestId response := by
  cases endpoint with
  | configV1 => exact ⟨_, rfl, .document (ConfigV1.plain_toJson _)⟩
  | configV2 => exact ⟨_, rfl, .document (ConfigV2.plain_toJson _)⟩
  | references => exact ⟨_, rfl, .document (References.plain_toJson _)⟩
  | reference name =>
    have hcall := getReference_eq settings name request phaseAt
    by_cases hmem : name ∈ settings.references
    · rw [if_pos hmem] at hcall
      exact ⟨_, congrArg HandlerRun.result hcall, .document (Reference.plain_toJson _ _)⟩
    · rw [if_neg hmem] at hcall
      exact ⟨_, congrArg HandlerRun.result hcall, .missing hmem⟩
  | live => exact ⟨_, rfl, .document (Health.plain_toJson _)⟩
  | ready => exact ⟨_, rfl, .document (Health.plain_toJson _)⟩

/-- A response of the catalog is that of the endpoint that the request asks for. -/
theorem exists_endpoint_of_result {response : Response}
    (h : ((table service settings).dispatchDuring request phaseAt).result = .ok response) :
    ∃ endpoint : Endpoint, request.method = .get ∧ Endpoint.ofSegments? (pathSegments request.path) = some endpoint ∧
      endpoint.Responds settings request.requestId response := by
  cases hpath : Endpoint.ofSegments? (pathSegments request.path) with
  | none =>
    rw [RouteTable.result_dispatchDuring_of_error (resolve_nothing hpath request.method)] at h
    cases h
  | some endpoint =>
    by_cases hmethod : request.method = .get
    · have hresolve := @resolve_endpoint service settings _ _ hpath
      rw [← hmethod] at hresolve
      obtain ⟨response', hresponse, hresponds⟩ :=
        @endpoint.exists_responds service settings request phaseAt
      rw [RouteTable.result_dispatchDuring_of_ok hresolve, hresponse] at h
      obtain rfl : response' = response := Except.ok.inj h
      exact ⟨endpoint, hmethod, rfl, hresponds⟩
    · rw [RouteTable.result_dispatchDuring_of_error (resolve_other_method hpath hmethod)] at h
      cases h

theorem result_of_asksForMissing {name : String} (h : AsksForMissing settings request name) :
    ((table service settings).dispatchDuring request phaseAt).result =
      .ok (missingReference name request.requestId).toResponse := by
  have hresolve := @resolve_endpoint service settings _ _ h.endpoint
  rw [← h.method] at hresolve
  have hcall := getReference_eq settings name request phaseAt
  rw [if_neg h.missing] at hcall
  rw [RouteTable.result_dispatchDuring_of_ok hresolve]
  exact congrArg (fun run => Route.meaning _ run.result) hcall

end Catalog

/-! ### Which identifier a problem tells -/

/-- In time, the catalog is asked for a reference that there is not. -/
structure Entrypoint.Misses (e : Entrypoint) (context : AppContext) (settings : CatalogSettings) (i : Invocation)
    (request : Request) : Prop where
  read : Event.requestOfPayload i.payload e.stripStage = .ok request
  missing : ∃ name, Catalog.AsksForMissing settings request name
  intime : ¬ e.Overruns i (e.dispatch context i request).duration

namespace AppContext.OfCatalog

variable {context : AppContext} {service : String} {settings : CatalogSettings} {e : Entrypoint} {i : Invocation}
  {request : Request} {response : Response}

theorem of_table (service : String) (settings : CatalogSettings) :
    OfCatalog ⟨service, Catalog.table service settings⟩ service settings :=
  ⟨_, Catalog.value_buildContext service settings, .refl (fun _ _ => rfl) _⟩

theorem result_dispatch (h : context.OfCatalog service settings) (e : Entrypoint) (i : Invocation)
    (request : Request) : (e.dispatch context i request).result =
      ((Catalog.table service settings).dispatchDuring request (e.phaseAt .handling i)).result := by
  obtain ⟨built, hbuilt, halike⟩ := h
  rw [Catalog.value_buildContext] at hbuilt
  cases hbuilt
  exact halike.result_dispatchDuring request _

/-- The problem of a missing reference is what the invocation is answered with. -/
theorem exists_tells_of_misses (h : context.OfCatalog service settings) (hmisses : e.Misses context settings i request) :
    ∃ response name, (e.handle context .handling i).value = .ok response ∧
      (Envelope.ofResponse response).Tells (Catalog.missingReference name request.requestId) := by
  obtain ⟨name, hname⟩ := hmisses.missing
  have hresult := (h.result_dispatch e i request).trans (Catalog.result_of_asksForMissing hname)
  have hresponds : e.Responds context i request _ := ⟨hmisses.read, hmisses.intime, hresult⟩
  exact ⟨_, name, hresponds.value_handle, Problem.tells_toResponse (Problem.status_notFound _ _)⟩

/-- The problems with which handlers of the catalog respond are those of missing references. -/
theorem misses_of_responds (h : context.OfCatalog service settings) (hresponds : e.Responds context i request response)
    (htype : (Envelope.ofResponse response).headers.get? "content-type" = some "application/problem+json") :
    e.Misses context settings i request := by
  have hresult := (h.result_dispatch e i request).symm.trans hresponds.result
  obtain ⟨endpoint, hmethod, hendpoint, hresponse⟩ := Catalog.exists_endpoint_of_result hresult
  cases hresponse with
  | document hv =>
    have hjson := (Envelope.document_json hv .ok).contentType
    exact absurd (hjson.symm.trans htype) (by decide)
  | missing hname => exact ⟨hresponds.read, ⟨_, hmethod, hendpoint, hname⟩, hresponds.intime⟩

end AppContext.OfCatalog

/-- Every problem document that an invocation of the catalog is answered with tells the identifier of the invocation,
but for that about a missing reference: it tells the identifier that the event gives the request. -/
theorem problems_identified (service : String) (settings : CatalogSettings) (e : Entrypoint)
    (factory : FactoryRun AppContext) (s : Instance) (i : Invocation) (context : AppContext) (envelope : Envelope)
    (hcatalog : context.OfCatalog service settings) (hc : s.Provides factory context)
    (hanswer : (e.invoke factory s i).value.1 = .answered envelope)
    (htype : envelope.headers.get? "content-type" = some "application/problem+json") :
    ∃ p, envelope.Tells p ∧ (∀ request, e.Misses context settings i request → p.Names request.requestId) ∧
      ((∀ request, ¬ e.Misses context settings i request) → p.Names i.requestId) := by
  obtain ⟨cache, -, hinvoke⟩ := Entrypoint.exists_value_invoke (e := e) (i := i) hc
  rw [hinvoke] at hanswer
  have hanswered : ∀ response, (e.handle context .handling i).value = .ok response →
      Envelope.ofResponse response = envelope := by
    intro response hresponse
    rw [hresponse] at hanswer
    exact InvokeResult.answered.inj hanswer
  by_cases hmisses : ∃ request, e.Misses context settings i request
  · obtain ⟨request, hmisses⟩ := hmisses
    obtain ⟨response, name, hhandle, htells⟩ := hcatalog.exists_tells_of_misses hmisses
    rw [hanswered response hhandle] at htells
    refine ⟨_, htells, ?_, fun hnone => absurd hmisses (hnone request)⟩
    intro request' hmisses'
    obtain rfl : request = request' := Except.ok.inj (hmisses.read.symm.trans hmisses'.read)
    exact Problem.instanceId_withRequestId _ _ rfl
  · rw [not_exists] at hmisses
    have hread : Event.requestOfPayload i.payload e.stripStage ≠ .error .tooManyHeaders := by
      intro hcrowded
      rw [Entrypoint.value_handle_of_tooManyHeaders hcrowded] at hanswer
      cases hanswer
    rcases e.runsInto_or_responds context i hread with ⟨trouble, htrouble⟩ | ⟨request, response, hresponds⟩
    · obtain ⟨response, hhandle, htells⟩ := htrouble.exists_response
      rw [hanswered response hhandle] at htells
      exact ⟨_, htells, fun request h => absurd h (hmisses request),
        fun _ => (trouble.reports_problem i.requestId).instanceId⟩
    · rw [← hanswered response hresponds.value_handle] at htype
      exact absurd (hcatalog.misses_of_responds hresponds htype) (hmisses request)

namespace Sample

/-- An invocation for a reference that there is not, whose event gives the request another identifier. -/
def renamed : Invocation := { getInvocation (Catalog.referencePath "nope") with requestId := "invocation" }

def mainSettings : CatalogSettings := ⟨"main", ["main"]⟩

def mainContext : AppContext := ⟨"catalog", Catalog.table "catalog" mainSettings⟩

theorem exists_misses_renamed :
    ∃ request, ({} : Entrypoint).Misses mainContext mainSettings renamed request ∧ request.requestId = "get" := by
  have hname : isReferenceName "nope" = true := by decide
  have hgets := gets_getInvocation (head?_referencePath "nope")
    (Catalog.encodesPath_referencePath (isReferenceName_iff.1 hname)) ({} : Entrypoint).stripStage
  obtain ⟨request, hread, hmethod, hpath, hid⟩ := hgets.exists_request
  have hendpoint : Catalog.Endpoint.ofSegments? (pathSegments request.path) = some (.reference "nope") := by
    rw [hpath]
    rfl
  have hintime : ¬ ({} : Entrypoint).Overruns renamed (({} : Entrypoint).dispatch mainContext renamed request).duration :=
    fun hover => hover.1 rfl
  exact ⟨request, ⟨hread, ⟨"nope", hmethod, hendpoint, by decide⟩, hintime⟩, hid⟩

theorem exists_answer_renamed : ∃ envelope p,
    (({} : Entrypoint).invoke ⟨.ready mainContext, []⟩ {} renamed).value.1 = .answered envelope ∧ envelope.Tells p ∧
    p.instanceId = some "get" := by
  obtain ⟨request, hmisses, hid⟩ := exists_misses_renamed
  obtain ⟨response, name, hhandle, htells⟩ :=
    (AppContext.OfCatalog.of_table "catalog" mainSettings).exists_tells_of_misses hmisses
  have hc : Instance.Provides {} ⟨.ready mainContext, []⟩ mainContext := .inr ⟨rfl, rfl⟩
  obtain ⟨cache, -, hinvoke⟩ := Entrypoint.exists_value_invoke (e := {}) (i := renamed) hc
  rw [hid] at htells
  refine ⟨Envelope.ofResponse response, _, ?_, htells, rfl⟩
  rw [hinvoke]
  exact congrArg (fun handled => (Entrypoint.conclude handled).1) hhandle

end Sample

/-- The problem of a reference that the catalog does not have is identified by the event. -/
theorem problems_identified_renamed :
    Sample.mainContext.OfCatalog "catalog" Sample.mainSettings ∧
    Instance.Provides {} ⟨.ready Sample.mainContext, []⟩ Sample.mainContext ∧
    ∃ envelope p, (({} : Entrypoint).invoke ⟨.ready Sample.mainContext, []⟩ {} Sample.renamed).value.1 =
        .answered envelope ∧
      envelope.headers.get? "content-type" = some "application/problem+json" ∧ envelope.Tells p ∧
      Sample.renamed.requestId = "invocation" ∧ p.instanceId = some "get" := by
  have hcatalog := AppContext.OfCatalog.of_table "catalog" Sample.mainSettings
  have hc : Instance.Provides {} ⟨.ready Sample.mainContext, []⟩ Sample.mainContext := .inr ⟨rfl, rfl⟩
  obtain ⟨envelope, -, hanswer, ⟨htype, -⟩, -⟩ := Sample.exists_answer_renamed
  obtain ⟨request, hmisses, hid⟩ := Sample.exists_misses_renamed
  obtain ⟨p, htells, hmissing, -⟩ := problems_identified "catalog" Sample.mainSettings {} ⟨.ready Sample.mainContext, []⟩
    {} Sample.renamed Sample.mainContext envelope hcatalog hc hanswer htype
  have hnames := hmissing request hmisses
  rw [hid] at hnames
  exact ⟨hcatalog, hc, envelope, p, hanswer, htype, htells, rfl, hnames⟩

/-- Not every problem document of the catalog tells the identifier of the invocation. -/
theorem not_every_problem_identified :
    ¬ ∀ (service : String) (settings : CatalogSettings) (e : Entrypoint) (factory : FactoryRun AppContext)
      (s : Instance) (i : Invocation) (context : AppContext) (envelope : Envelope),
      context.OfCatalog service settings → s.Provides factory context →
      (e.invoke factory s i).value.1 = .answered envelope →
      envelope.headers.get? "content-type" = some "application/problem+json" →
      ∃ p, envelope.Tells p ∧ p.Names i.requestId := by
  intro hclaim
  have hcatalog := AppContext.OfCatalog.of_table "catalog" Sample.mainSettings
  have hc : Instance.Provides {} ⟨.ready Sample.mainContext, []⟩ Sample.mainContext := .inr ⟨rfl, rfl⟩
  obtain ⟨envelope, p, hanswer, htells, hinstance⟩ := Sample.exists_answer_renamed
  obtain ⟨p', htells', hnames⟩ := hclaim _ _ _ _ _ _ _ _ hcatalog hc hanswer htells.contentType
  rw [htells'.unique htells, Problem.Names, hinstance] at hnames
  exact absurd hnames (by decide)

end CatalogGateway
