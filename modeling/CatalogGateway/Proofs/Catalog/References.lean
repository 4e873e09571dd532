import CatalogGateway.Proofs.Answer.Problem
import CatalogGateway.Proofs.Catalog.Application
import CatalogGateway.Proofs.Catalog.Documents
import CatalogGateway.Proofs.Entrypoint.Invocation
import CatalogGateway.Proofs.Event.Formats
import CatalogGateway.Proofs.Event.Payload
import CatalogGateway.Proofs.Settings.Catalog
import CatalogGateway.Proofs.Text.Pieces

/-!
# The references that can be fetched

The catalog lists all references of its settings.  It looks the name of one up as it is put together from the segments
of the path, so exactly those without two slashes in a row can be fetched (`references_answered`).
-/

namespace CatalogGateway

namespace Invocation

/-- The payload is an event that carries the message, in one of the two formats. -/
def Carries (i : Invocation) (strip : Bool) (m : Message) : Prop :=
  ∃ event, Event.ofPayload i.payload = .ok event ∧ (event.CarriesV1 m ∨ event.CarriesV2 strip m)

/-- The invocation asks for what there is under a path. -/
structure Gets (i : Invocation) (strip : Bool) (m : Message) (path : String) : Prop where
  carries : i.Carries strip m
  readable : m.Readable
  method : m.method? = some .get
  path : m.path = path

variable {i : Invocation} {strip : Bool} {m : Message} {path : String}

theorem Gets.exists_request (h : i.Gets strip m path) :
    ∃ request, Event.requestOfPayload i.payload strip = .ok request ∧ request.method = .get ∧ request.path = path ∧
      request.requestId = m.requestId := by
  obtain ⟨event, hevent, hcarries⟩ := h.carries
  have hreads : event.Reads strip m := by
    rcases hcarries with hv1 | hv2
    · exact hv1.reads strip
    · exact hv2.reads
  obtain ⟨request, hrequest⟩ := hreads.exists_toRequest_eq_ok.2 h.readable
  have hread := hreads.readAs hrequest
  have hmethod := hread.method
  rw [h.method] at hmethod
  refine ⟨request, ?_, (Option.some.inj hmethod).symm, hread.path.trans h.path, hread.requestId⟩
  rw [Event.requestOfPayload, hevent]
  exact hrequest

end Invocation

namespace Catalog

def referencePath (name : String) : String := "/api/v2/trees/" ++ name

/-- The name that is looked up for the path of a reference. -/
def lookedUp (name : String) : String := "/".intercalate (Text.words '/' name)

theorem pathSegments_referencePath (name : String) :
    pathSegments (referencePath name) = "api" :: "v2" :: "trees" :: Text.words '/' name := by
  have hpath : referencePath name = "/api/v2/trees" ++ String.singleton '/' ++ name := rfl
  have htrees : Text.words '/' "/api/v2/trees" = ["api", "v2", "trees"] := by decide
  rw [pathSegments, hpath, Text.words_append, htrees]
  rfl

/-! ### Names of references -/

section Names

variable {name : String}

theorem words_ne_nil (h : ReferenceName name) : Text.words '/' name ≠ [] := by
  obtain ⟨c, hhead, halpha⟩ := h.first
  refine Text.words_ne_nil hhead ?_
  rintro rfl
  cases halpha

/-- What is looked up is the name itself, but for the slashes that follow each other in it. -/
theorem lookedUp_eq_self (h : ReferenceName name) : lookedUp name = name ↔ ¬ ['/', '/'] <:+: name.toList := by
  have hne : name ≠ "" := by
    rintro rfl
    obtain ⟨c, hhead, -⟩ := h.first
    cases hhead
  have hempty : "" ∈ Text.pieces '/' name ↔ ['/', '/'] <:+: name.toList := by
    rw [Text.empty_mem_pieces]
    simp only [hne, h.head?_ne, h.last, false_or]
  rw [← hempty]
  exact Text.intercalate_words (words_ne_nil h)

/-- The path of a reference needs no percent-encoding. -/
theorem encodesPath_referencePath (h : ReferenceName name) :
    Event.EncodesPath (referencePath name) (referencePath name) := by
  have hpath : (referencePath name).toList = '/' :: ("api/v2/trees/".toList ++ name.toList) := by
    rw [referencePath, String.toList_append]
    rfl
  have hplain : '%' ∉ "api/v2/trees/".toList ++ name.toList := by
    rw [List.mem_append]
    rintro (hmem | hmem)
    · revert hmem
      decide
    · exact h.not_mem (by decide) hmem
  exact ⟨_, _, hpath, hpath, .refl hplain⟩

end Names

/-! ### Listing and fetching -/

/-- How the catalog answers for the path of a reference. -/
structure AnswersFor (settings : CatalogSettings) (name requestId : String) (envelope : Envelope) : Prop where
  found : lookedUp name ∈ settings.references → envelope.Delivers Reference.ofJson (.branch (lookedUp name))
  missing : lookedUp name ∉ settings.references →
    envelope.Tells (.notFound ("Named reference '" ++ lookedUp name ++ "' not found") requestId)

/-- An invocation for the list of the references is answered with one that has the reference. -/
def Lists (context : AppContext) (reference : Reference) : Prop :=
  ∃ e factory s i m envelope references, Instance.Provides s factory context ∧
    Invocation.Gets i e.stripStage m "/api/v2/trees" ∧
    (Entrypoint.invoke e factory s i).value.1 = .answered envelope ∧
    envelope.Delivers References.ofJson references ∧ reference ∈ references.references

section Answers

variable {service : String} {settings : CatalogSettings} {e : Entrypoint} {factory : FactoryRun AppContext}
  {s : Instance} {i : Invocation} {m : Message} {name : String}

theorem exists_listed (hc : s.Provides factory ⟨service, table service settings⟩)
    (h : i.Gets e.stripStage m "/api/v2/trees") :
    ∃ envelope, (e.invoke factory s i).value.1 = .answered envelope ∧
      envelope.Delivers References.ofJson ⟨settings.references.map Reference.branch⟩ := by
  obtain ⟨request, hread, hmethod, hpath, -⟩ := h.exists_request
  have hsegments : pathSegments "/api/v2/trees" = ["api", "v2", "trees"] := by decide
  have hroute := resolve_trees service settings hsegments
  rw [← hmethod, ← hpath] at hroute
  refine ⟨_, Entrypoint.value_invoke_fst_of_response hc hread hroute rfl rfl, ?_⟩
  exact Envelope.delivers_json (References.plain_toJson _) (References.ofJson_toJson _)

theorem exists_answersFor (hname : ReferenceName name) (hc : s.Provides factory ⟨service, table service settings⟩)
    (h : i.Gets e.stripStage m (referencePath name)) :
    ∃ envelope, (e.invoke factory s i).value.1 = .answered envelope ∧ AnswersFor settings name m.requestId envelope := by
  obtain ⟨request, hread, hmethod, hpath, hid⟩ := h.exists_request
  have hroute := resolve_reference service settings (words_ne_nil hname) (pathSegments_referencePath name)
  rw [← hmethod, ← hpath] at hroute
  have hcall := getReference_eq settings (lookedUp name) request (e.phaseAt .handling i)
  by_cases hmem : lookedUp name ∈ settings.references
  · rw [if_pos hmem] at hcall
    have hinvoke := Entrypoint.value_invoke_fst_of_response hc hread hroute (congrArg _ hcall) (congrArg _ hcall)
    have hdelivers := Envelope.delivers_json ((Reference.branch (lookedUp name)).plain_toJson 126)
      (Reference.branch (lookedUp name)).ofJson_toJson
    exact ⟨_, hinvoke, fun _ => hdelivers, fun hnot => absurd hmem hnot⟩
  · rw [if_neg hmem] at hcall
    have hinvoke := Entrypoint.value_invoke_fst_of_response hc hread hroute (congrArg _ hcall) (congrArg _ hcall)
    have htells := Problem.tells_toResponse
      (Problem.status_notFound ("Named reference '" ++ lookedUp name ++ "' not found") m.requestId)
    rw [hid] at hinvoke
    exact ⟨_, hinvoke, fun hin => absurd hin hmem, fun _ => htells⟩

/-- The reference itself is delivered exactly if its name is what is looked up. -/
theorem AnswersFor.delivers_iff {requestId : String} {envelope : Envelope}
    (h : AnswersFor settings name requestId envelope) (hname : name ∈ settings.references) :
    envelope.Delivers Reference.ofJson (.branch name) ↔ lookedUp name = name := by
  constructor
  · intro hdelivers
    by_cases hmem : lookedUp name ∈ settings.references
    · exact congrArg Reference.name ((h.found hmem).unique hdelivers)
    · have hstatus := (h.missing hmem).status
      rw [hdelivers.status, Problem.status_notFound] at hstatus
      exact absurd hstatus (by decide)
  · intro hself
    have hfound := h.found
    rw [hself] at hfound
    exact hfound hname

end Answers

end Catalog

/-- Of the references that the catalog of an environment lists, those can be fetched in whose names no slash follows
another: for the path of any other the catalog looks up the name with the repeated slashes left out. -/
theorem references_answered (service : String) (env : Environment) (settings : CatalogSettings)
    (h : CatalogSettings.ofEnvironment env = .ok settings) :
    ∃ context, (Catalog.contextOfEnvironment service env).value = .ready context ∧
      (∀ e factory s i m, Instance.Provides s factory context → Invocation.Gets i e.stripStage m "/api/v2/trees" →
        ∃ envelope, (Entrypoint.invoke e factory s i).value.1 = .answered envelope ∧
          envelope.Delivers Catalog.References.ofJson ⟨settings.references.map Catalog.Reference.branch⟩) ∧
      ∀ name ∈ settings.references,
        Event.EncodesPath (Catalog.referencePath name) (Catalog.referencePath name) ∧
        ∀ e factory s i m, Instance.Provides s factory context →
          Invocation.Gets i e.stripStage m (Catalog.referencePath name) →
          ∃ envelope, (Entrypoint.invoke e factory s i).value.1 = .answered envelope ∧
            (envelope.Delivers Catalog.Reference.ofJson (.branch name) ↔ ¬ ['/', '/'] <:+: name.toList) ∧
            Catalog.AnswersFor settings name m.requestId envelope := by
  refine ⟨_, Catalog.value_contextOfEnvironment service settings h, ?_, ?_⟩
  · intro e factory s i m hc hgets
    exact Catalog.exists_listed hc hgets
  · intro name hmem
    have hname := CatalogSettings.referenceName_of_mem h hmem
    refine ⟨Catalog.encodesPath_referencePath hname, ?_⟩
    intro e factory s i m hc hgets
    obtain ⟨envelope, hinvoke, hanswers⟩ := Catalog.exists_answersFor hname hc hgets
    exact ⟨envelope, hinvoke, (hanswers.delivers_iff hmem).trans (Catalog.lookedUp_eq_self hname), hanswers⟩

namespace Sample

/-- An environment that asks for a reference with two slashes in a row. -/
def doubled : Environment := ⟨[("CATALOG_REFERENCES", Text.Utf8.encode "a//b")]⟩

def doubledSettings : CatalogSettings := ⟨"main", ["main", "a//b"]⟩

theorem ofEnvironment_doubled : CatalogSettings.ofEnvironment doubled = .ok doubledSettings := by
  have htext : doubled.text? "CATALOG_REFERENCES" = some "a//b" := Text.Utf8.decode?_encode "a//b"
  have hbranch : CatalogSettings.readDefaultBranch doubled = "main" := rfl
  have hnames : CatalogSettings.readNames doubled = ["main", "a//b"] := by
    unfold CatalogSettings.readNames CatalogSettings.readReferences
    rw [hbranch, htext]
    decide +kernel
  rw [CatalogSettings.ofEnvironment_eq_ok, hnames, hbranch]
  refine ⟨?_, by decide⟩
  intro name hname
  have hvalid : ∀ name ∈ ["main", "a//b"], isReferenceName name = true := by decide
  exact isReferenceName_iff.1 (hvalid name hname)

/-- What a client sends to see what there is under a path. -/
def getMessage (path : String) (rooted : path.toList.head? = some '/') : Message :=
  { method := "GET", path, rooted, distinct := by decide, requestId := "get" }

def getEvent (path : String) : Event :=
  { version := some "2.0", rawPath := some path,
    requestContext := some { requestId := some "get", http := some { method := some "GET" } } }

def getInvocation (path : String) : Invocation := { payload := (getEvent path).toJson, requestId := "get" }

theorem gets_getInvocation {path : String} (rooted : path.toList.head? = some '/') (hpath : Event.EncodesPath path path)
    (strip : Bool) : (getInvocation path).Gets strip (getMessage path rooted) path := by
  have hstage : ∀ stage, (getEvent path).requestContext.bind (·.stage) = some stage →
      stage = "" ∨ stage = "$default" := by
    intro stage hnone
    cases hnone
  have hcarries : (getEvent path).CarriesV2 strip (getMessage path rooted) :=
    { version := rfl
      path := .bare hpath rfl (.inr hstage)
      headers := ⟨[], ⟨[], rfl, rfl⟩, .refl _⟩
      cookies := rfl
      query := .inr ⟨rfl, rfl⟩
      body := .absent rfl
      context := ⟨_, _, rfl, rfl, rfl, rfl, rfl, rfl⟩ }
  have hmethod : (getMessage path rooted).method? = some .get := by
    show Method.ofText? (Text.uppercase (Text.trim "GET")) = some .get
    decide
  have hroom : headerSlots 0 ≤ maxHeaderSlots := by decide
  have hreadable : (getMessage path rooted).Readable := by
    refine ⟨?_, hroom, List.forall_mem_nil _⟩
    rw [hmethod]
    rfl
  exact ⟨⟨_, Event.ofPayload_toJson _, .inr hcarries⟩, hreadable, hmethod, rfl⟩

theorem head?_referencePath (name : String) : (Catalog.referencePath name).toList.head? = some '/' := by
  rw [Catalog.referencePath, String.toList_append]
  rfl

end Sample

/-- The catalog of an environment with an ordinary reference beside one with two slashes in a row delivers the former. -/
theorem references_answered_doubled :
    CatalogSettings.ofEnvironment Sample.doubled = .ok Sample.doubledSettings ∧
    ∃ context, (Catalog.contextOfEnvironment "catalog" Sample.doubled).value = .ready context ∧
      ∃ envelope,
        (({} : Entrypoint).invoke ⟨.ready context, []⟩ {}
          (Sample.getInvocation (Catalog.referencePath "main"))).value.1 = .answered envelope ∧
        envelope.Delivers Catalog.Reference.ofJson (.branch "main") := by
  have hsettings := Sample.ofEnvironment_doubled
  obtain ⟨context, hcontext, -, hnames⟩ := references_answered "catalog" _ _ hsettings
  obtain ⟨henc, hfetch⟩ := hnames "main" (by decide)
  have hc : Instance.Provides {} ⟨.ready context, []⟩ context := .inr ⟨rfl, rfl⟩
  have hgets := Sample.gets_getInvocation (Sample.head?_referencePath "main") henc ({} : Entrypoint).stripStage
  obtain ⟨envelope, hinvoke, hdelivers, -⟩ := hfetch {} _ {} _ _ hc hgets
  exact ⟨hsettings, context, hcontext, envelope, hinvoke, hdelivers.2 (by decide)⟩

/-- Not every reference that is listed can be fetched under its name. -/
theorem not_every_reference_fetched :
    ¬ ∀ (service : String) (env : Environment) (settings : CatalogSettings) (context : AppContext) (name : String),
      CatalogSettings.ofEnvironment env = .ok settings →
      (Catalog.contextOfEnvironment service env).value = .ready context → Catalog.Lists context (.branch name) →
      ∀ e factory s i m, Instance.Provides s factory context →
        Invocation.Gets i e.stripStage m (Catalog.referencePath name) →
        ∃ envelope, (Entrypoint.invoke e factory s i).value.1 = .answered envelope ∧
          envelope.Delivers Catalog.Reference.ofJson (.branch name) := by
  intro hclaim
  have hsettings := Sample.ofEnvironment_doubled
  have hcontext := Catalog.value_contextOfEnvironment "catalog" _ hsettings
  have hc : Instance.Provides {} ⟨.ready _, []⟩ ⟨"catalog", Catalog.table "catalog" Sample.doubledSettings⟩ :=
    .inr ⟨rfl, rfl⟩
  have hlists : Catalog.Lists ⟨"catalog", Catalog.table "catalog" Sample.doubledSettings⟩ (.branch "a//b") := by
    have henc : Event.EncodesPath "/api/v2/trees" "/api/v2/trees" :=
      ⟨"api/v2/trees".toList, "api/v2/trees".toList, rfl, rfl, .refl (by decide)⟩
    have hgets := Sample.gets_getInvocation (by decide) henc ({} : Entrypoint).stripStage
    obtain ⟨envelope, hinvoke, hdelivers⟩ := Catalog.exists_listed hc hgets
    exact ⟨{}, _, {}, _, _, envelope, _, hc, hgets, hinvoke, hdelivers, by decide⟩
  have hmem : "a//b" ∈ Sample.doubledSettings.references := by decide
  have hname := CatalogSettings.referenceName_of_mem hsettings hmem
  have hgets := Sample.gets_getInvocation (Sample.head?_referencePath "a//b") (Catalog.encodesPath_referencePath hname)
    ({} : Entrypoint).stripStage
  obtain ⟨envelope, hinvoke, hdelivers⟩ := hclaim "catalog" _ _ _ "a//b" hsettings hcontext hlists {} _ {} _ _ hc hgets
  obtain ⟨envelope', hinvoke', hanswers⟩ := Catalog.exists_answersFor hname hc hgets
  rw [hinvoke] at hinvoke'
  obtain rfl : envelope = envelope' := InvokeResult.answered.inj hinvoke'
  have hself := (hanswers.delivers_iff hmem).1 hdelivers
  revert hself
  decide

end CatalogGateway
