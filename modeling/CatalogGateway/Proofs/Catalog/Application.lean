import CatalogGateway.Catalog.Application
import CatalogGateway.Proofs.Lists
import CatalogGateway.Proofs.Route.Resolution
import CatalogGateway.Proofs.Settings.Catalog

/-!
# The routing table of the catalog

The patterns of the catalog can all be read, so its context can always be built from settings (`value_buildContext`).
No path is matched by two of them: the segments of a path say what it asks for (`Endpoint.ofSegments?`), and the route for
that is found (`resolve_endpoint`).
-/

namespace CatalogGateway

/-- The route as it is asked for. -/
def Route.spec (route : Route) : RouteSpec := ⟨route.method, route.pattern.text, route.handler⟩

/-- Routes that are asked for as they are, with patterns that are read as they are, make up a table. -/
theorem RouteTable.value_routeAll_spec (t : RouteTable) (routes : List Route)
    (h : ∀ route ∈ routes, Pattern.parse route.pattern.text = .ok route.pattern) :
    (t.routeAll (routes.map Route.spec)).value = .ok ⟨t.routes ++ routes⟩ := by
  induction routes generalizing t with
  | nil => simp [routeAll]
  | cons route rest ih =>
    have hrest := ih ⟨t.routes ++ [route]⟩ fun r hr => h r (List.mem_cons_of_mem _ hr)
    have hadded : (t.route route.spec).value = .ok ⟨t.routes ++ [route]⟩ := by
      unfold RouteTable.route Route.spec
      dsimp only
      rw [h route List.mem_cons_self]
      rfl
    rw [List.append_cons, ← hrest]
    simp [routeAll, hadded]

namespace Catalog

variable (service : String) (settings : CatalogSettings)

def listPattern : Pattern := ⟨"/api/v2/trees", [.literal "api", .literal "v2", .literal "trees"]⟩

def fetchPattern : Pattern :=
  ⟨"/api/v2/trees/{*ref}", [.literal "api", .literal "v2", .literal "trees", .tail "ref"]⟩

def patterns : List Pattern := [
  ⟨"/api/v1/config", [.literal "api", .literal "v1", .literal "config"]⟩,
  ⟨"/api/v2/config", [.literal "api", .literal "v2", .literal "config"]⟩,
  listPattern,
  fetchPattern,
  ⟨"/health/live", [.literal "health", .literal "live"]⟩,
  ⟨"/health/ready", [.literal "health", .literal "ready"]⟩]

theorem parse_patterns : ∀ pattern ∈ patterns, Pattern.parse pattern.text = .ok pattern := by decide

def handlers : List Handler :=
  [configV1 settings, configV2 settings, listReferences settings, getReference settings, health service, health service]

def table : RouteTable where
  routes := List.zipWith (Route.mk .get) patterns (handlers service settings)

theorem routes_eq : routes service settings = (table service settings).routes.map Route.spec := rfl

theorem pattern_mem_patterns {route : Route} (h : route ∈ (table service settings).routes) :
    route.pattern ∈ patterns := by
  have hmap : (table service settings).routes.map (·.pattern) = patterns := rfl
  rw [← hmap]
  exact List.mem_map_of_mem h

theorem value_buildContext : (buildContext service settings).value = .ready ⟨service, table service settings⟩ := by
  have hroutes := ({} : RouteTable).value_routeAll_spec (table service settings).routes fun route hroute =>
    parse_patterns route.pattern (pattern_mem_patterns service settings hroute)
  have hready : (AppContext.ofRoutes service (routes service settings)).value =
      .ready ⟨service, table service settings⟩ := by
    simp [AppContext.ofRoutes, routes_eq, hroutes]
  simp [buildContext, hready]

theorem value_contextOfEnvironment {env : Environment} (h : CatalogSettings.ofEnvironment env = .ok settings) :
    (contextOfEnvironment service env).value = .ready ⟨service, table service settings⟩ := by
  unfold contextOfEnvironment
  rw [h]
  exact value_buildContext service settings

theorem value_contextOfEnvironment_of_error {env : Environment} {error : ReferenceError}
    (h : CatalogSettings.ofEnvironment env = .error error) :
    (contextOfEnvironment service env).value = .failed (.ofMessage error.message) := by
  unfold contextOfEnvironment
  rw [h]
  rfl

/-- The name in the path is there, so the handler does not fail. -/
theorem getReference_eq (settings : CatalogSettings) (name : String) (request : Request) (phaseAt : Nat → Phase) :
    getReference settings ⟨request, ⟨[("ref", name)]⟩, phaseAt⟩ =
      if name ∈ settings.references then { result := .response (.json (Reference.branch name).toJson) }
      else
        { result := .response
            (Problem.notFound ("Named reference '" ++ name ++ "' not found") request.requestId).toResponse
          log := [.referenceMissing name] } := by
  have hparam : (Params.mk [("ref", name)]).get? "ref" = some name := rfl
  unfold getReference
  dsimp only
  rw [hparam]
  dsimp only
  rw [CatalogSettings.reference?_eq]
  by_cases hmem : name ∈ settings.references
  · rw [if_pos hmem, if_pos hmem]
  · rw [if_neg hmem, if_neg hmem]

end Catalog

/-! ### Which route a path takes -/

/-- Segments that start with literals are matched by lists that start with their texts. -/
theorem Pattern.exists_of_matchSegments (texts : List String) {rest : List Segment} {parts : List String}
    {entries : List (String × String)} (h : matchSegments (texts.map .literal ++ rest) parts = some entries) :
    ∃ more, parts = texts ++ more ∧ matchSegments rest more = some entries := by
  induction texts generalizing parts with
  | nil => exact ⟨parts, rfl, h⟩
  | cons text texts ih =>
    cases parts with
    | nil => cases h
    | cons part parts =>
      rw [List.map_cons, List.cons_append, matchSegments] at h
      by_cases htext : part = text
      · rw [if_pos htext] at h
        obtain ⟨more, rfl, hmore⟩ := ih h
        exact ⟨more, by rw [htext, List.cons_append], hmore⟩
      · rw [if_neg htext] at h
        cases h

/-- A pattern without parameters matches the paths of its own segments. -/
theorem Pattern.pathSegments_of_match {pattern : Pattern} (texts : List String)
    (hsegments : pattern.segments = texts.map .literal) {path : String} {params : Params}
    (h : pattern.match? path = some params) : pathSegments path = texts := by
  obtain ⟨entries, hentries, -⟩ := Option.map_eq_some_iff.1 h
  rw [hsegments, ← List.append_nil (texts.map Segment.literal)] at hentries
  obtain ⟨more, hparts, hmore⟩ := exists_of_matchSegments texts hentries
  cases more with
  | nil => rw [hparts, List.append_nil]
  | cons part more => cases hmore

namespace Catalog

/-- What the catalog can be asked for. -/
inductive Endpoint where
  | configV1
  | configV2
  | references
  | reference (name : String)
  | live
  | ready

namespace Endpoint

/-- What the segments of a path ask for. -/
def ofSegments? : List String → Option Endpoint
  | ["api", "v1", "config"] => some configV1
  | ["api", "v2", "config"] => some configV2
  | ["api", "v2", "trees"] => some references
  | "api" :: "v2" :: "trees" :: first :: more => some (reference ("/".intercalate (first :: more)))
  | ["health", "live"] => some live
  | ["health", "ready"] => some ready
  | _ => none

/-- The place of its route in the table. -/
def place : Endpoint → Fin 6
  | configV1 => 0
  | configV2 => 1
  | references => 2
  | reference _ => 3
  | live => 4
  | ready => 5

def params : Endpoint → Params
  | reference name => ⟨[("ref", name)]⟩
  | _ => {}

variable (service : String) (settings : CatalogSettings)

def route (endpoint : Endpoint) : Route := (table service settings).routes.get endpoint.place

theorem route_mem (endpoint : Endpoint) : endpoint.route service settings ∈ (table service settings).routes :=
  List.get_mem _ _

variable {service settings} {endpoint : Endpoint} {path : String}

theorem match_route (h : ofSegments? (pathSegments path) = some endpoint) :
    (endpoint.route service settings).pattern.match? path = some endpoint.params := by
  unfold Pattern.match?
  generalize pathSegments path = parts at h
  unfold ofSegments? at h
  split at h
  all_goals cases h
  all_goals rfl

/-- A route of the catalog that matches a path is that of what the path asks for. -/
theorem exists_of_match {route : Route} (hroute : route ∈ (table service settings).routes) {params : Params}
    (h : route.pattern.match? path = some params) :
    ∃ endpoint : Endpoint, ofSegments? (pathSegments path) = some endpoint ∧ route = endpoint.route service settings := by
  simp only [table, patterns, handlers, List.zipWith_cons_cons, List.zipWith_nil_left, List.mem_cons, List.not_mem_nil,
    or_false] at hroute
  rcases hroute with rfl | rfl | rfl | rfl | rfl | rfl
  · have hpath := Pattern.pathSegments_of_match ["api", "v1", "config"] rfl h
    exact ⟨.configV1, by rw [hpath]; rfl, rfl⟩
  · have hpath := Pattern.pathSegments_of_match ["api", "v2", "config"] rfl h
    exact ⟨.configV2, by rw [hpath]; rfl, rfl⟩
  · have hpath := Pattern.pathSegments_of_match ["api", "v2", "trees"] rfl h
    exact ⟨.references, by rw [hpath]; rfl, rfl⟩
  · obtain ⟨entries, hentries, -⟩ := Option.map_eq_some_iff.1 h
    obtain ⟨more, hpath, hmore⟩ := Pattern.exists_of_matchSegments ["api", "v2", "trees"] hentries
    cases more with
    | nil => cases hmore
    | cons first more => exact ⟨.reference _, by rw [hpath]; rfl, rfl⟩
  · have hpath := Pattern.pathSegments_of_match ["health", "live"] rfl h
    exact ⟨.live, by rw [hpath]; rfl, rfl⟩
  · have hpath := Pattern.pathSegments_of_match ["health", "ready"] rfl h
    exact ⟨.ready, by rw [hpath]; rfl, rfl⟩

end Endpoint

section Resolution

variable {service : String} {settings : CatalogSettings} {endpoint : Endpoint} {path : String}

theorem method_of_mem {route : Route} (h : route ∈ (table service settings).routes) : route.method = .get := by
  have hmethods : ∀ method ∈ (table service settings).routes.map (·.method), method = Method.get := by
    show ∀ method ∈ [Method.get, .get, .get, .get, .get, .get], method = Method.get
    decide
  exact hmethods _ (List.mem_map_of_mem h)

theorem route_mem_matching (h : Endpoint.ofSegments? (pathSegments path) = some endpoint) :
    endpoint.route service settings ∈ (table service settings).matching path := by
  refine List.mem_filter.2 ⟨endpoint.route_mem service settings, ?_⟩
  rw [Endpoint.match_route h]
  rfl

/-- What a path asks for is found. -/
theorem resolve_endpoint (h : Endpoint.ofSegments? (pathSegments path) = some endpoint) :
    (table service settings).resolve .get path = .ok (endpoint.route service settings, endpoint.params) := by
  have hsome : ∃ r ∈ (table service settings).matching path, r.method = .get :=
    ⟨_, route_mem_matching h, method_of_mem (endpoint.route_mem service settings)⟩
  obtain ⟨route, params, hresolve, ⟨earlier, later, hroutes, -⟩, hmatch⟩ :=
    (table service settings).exists_resolve_eq_ok .get path hsome
  have hmem : route ∈ ((table service settings).matching path).filter (·.method = .get) := by
    rw [hroutes]
    simp
  -- no other route matches the path
  obtain ⟨other, hother, rfl⟩ :=
    Endpoint.exists_of_match (List.mem_filter.1 (List.mem_filter.1 hmem).1).1 hmatch
  rw [h] at hother
  obtain rfl := Option.some.inj hother
  rw [Endpoint.match_route h] at hmatch
  rw [hresolve, Option.some.inj hmatch]

/-- Whatever else a path is asked for is refused. -/
theorem resolve_other_method (h : Endpoint.ofSegments? (pathSegments path) = some endpoint) {method : Method}
    (hmethod : method ≠ .get) :
    (table service settings).resolve method path = .error (.methodNotAllowed method path [.get]) := by
  have hmem : endpoint.route service settings ∈ (table service settings).matching path := route_mem_matching h
  have hall : ∀ m ∈ ((table service settings).matching path).map (·.method), m = .get :=
    List.forall_mem_map.2 fun r hr => method_of_mem (List.mem_filter.1 hr).1
  have hothers : ∀ r ∈ (table service settings).matching path, r.method ≠ method :=
    fun r hr heq => hmethod (heq ▸ hall _ (List.mem_map_of_mem hr))
  have hne := List.ne_nil_of_mem hmem
  rw [RouteTable.resolve_eq_methodNotAllowed _ _ _ hne hothers, eraseDups_of_forall_eq (by simpa using hne) hall]

theorem resolve_nothing (h : Endpoint.ofSegments? (pathSegments path) = none) (method : Method) :
    (table service settings).resolve method path = .error (.notFound method path) := by
  refine RouteTable.resolve_eq_notFound _ _ _ (List.filter_eq_nil_iff.2 fun route hroute hsome => ?_)
  obtain ⟨params, hmatch⟩ := Option.isSome_iff_exists.1 hsome
  obtain ⟨endpoint, hendpoint, -⟩ := Endpoint.exists_of_match hroute hmatch
  rw [h] at hendpoint
  cases hendpoint

end Resolution

section Trees

variable (service : String) (settings : CatalogSettings) {path : String}

theorem resolve_trees (h : pathSegments path = ["api", "v2", "trees"]) :
    (table service settings).resolve .get path = .ok (⟨.get, listPattern, listReferences settings⟩, {}) :=
  @resolve_endpoint service settings .references path (by rw [h]; rfl)

/-- What comes after the path of the references is the name of one, put together from its segments. -/
theorem resolve_reference {names : List String} (hne : names ≠ [])
    (h : pathSegments path = "api" :: "v2" :: "trees" :: names) :
    (table service settings).resolve .get path =
      .ok (⟨.get, fetchPattern, getReference settings⟩, ⟨[("ref", "/".intercalate names)]⟩) := by
  obtain ⟨first, more, rfl⟩ := List.exists_cons_of_ne_nil hne
  exact @resolve_endpoint service settings (.reference _) path (by rw [h]; rfl)

end Trees

end Catalog

end CatalogGateway
