import CatalogGateway.Route.Table
import Mathlib.Data.Bool.Basic
import Mathlib.Data.Prod.Lex

/-!
# Which route answers a request

The pass over a routing table against the rule that it stands for.  Patterns are ranked by three counts of their segments
(`Pattern.rank`), and the pass compares them by these (`Pattern.specificity_lt_iff`).  After any part of the table the pass
holds the first of the most specific routes seen for the method, and the other methods seen, each once (`Scan.Knows`); from
this follow the three answers of `RouteTable.resolve`.  The table itself holds the routes whose patterns could be read, in
the order of the calls (`routes_routeEach`).
-/

namespace CatalogGateway

/-! ### The order of patterns -/

namespace Segment

/-- How many literal segments there are before the first parameter. -/
def leadingLiterals : List Segment → ℕ
  | [] | param _ :: _ | tail _ :: _ => 0
  | literal _ :: rest => leadingLiterals rest + 1

/-- How many literal segments there are. -/
def literals : List Segment → ℕ
  | [] => 0
  | literal _ :: rest => literals rest + 1
  | param _ :: rest | tail _ :: rest => literals rest

/-- The last segment, if there is one, is no wildcard. -/
def endsFixed : List Segment → Bool
  | [] => true
  | [tail _] => false
  | _ :: rest => endsFixed rest

theorem length_takeWhile_isLiteral (segments : List Segment) :
    (segments.takeWhile isLiteral).length = leadingLiterals segments := by
  induction segments with
  | nil => rfl
  | cons segment rest ih => cases segment <;> simp [List.takeWhile_cons, leadingLiterals, isLiteral, ih]

theorem length_filter_isLiteral (segments : List Segment) :
    (segments.filter isLiteral).length = literals segments := by
  induction segments with
  | nil => rfl
  | cons segment rest ih => cases segment <;> simp [List.filter_cons, literals, isLiteral, ih]

theorem not_any_getLast?_isTail (segments : List Segment) :
    (!segments.getLast?.any isTail) = endsFixed segments := by
  induction segments with
  | nil => rfl
  | cons segment rest ih =>
    cases rest with
    | nil => cases segment <;> rfl
    | cons next more =>
      rw [List.getLast?_cons_cons, ih]
      cases segment <;> rfl

end Segment

/-- How specific a pattern is: by the number of literal segments before its first parameter, then by the number of all
its literal segments, then by whether it has no wildcard at its end. -/
def Pattern.rank (pattern : Pattern) : ℕ ×ₗ ℕ ×ₗ Bool :=
  toLex (Segment.leadingLiterals pattern.segments,
    toLex (Segment.literals pattern.segments, Segment.endsFixed pattern.segments))

/-- The order in which a pass compares patterns is that of their ranks. -/
theorem Pattern.specificity_lt_iff {p q : Pattern} : p.specificity < q.specificity ↔ p.rank < q.rank := by
  unfold rank
  rw [Prod.Lex.toLex_lt_toLex, Prod.Lex.toLex_lt_toLex, Bool.lt_iff]
  simp only [← Segment.length_takeWhile_isLiteral, ← Segment.length_filter_isLiteral,
    ← Segment.not_any_getLast?_isTail]
  rfl

/-- How specific the pattern of a route is. -/
def Route.rank (route : Route) : ℕ ×ₗ ℕ ×ₗ Bool := route.pattern.rank

/-- A route is the first of the most specific ones of a list: those before it are less specific, and those after it
are not more specific. -/
def Route.FirstOfBest (route : Route) (routes : List Route) : Prop :=
  ∃ earlier later, routes = earlier ++ route :: later ∧
    (∀ r ∈ earlier, r.rank < route.rank) ∧ ∀ r ∈ later, r.rank ≤ route.rank

namespace Route.FirstOfBest

variable {route : Route} {routes : List Route}

theorem rank_le (h : route.FirstOfBest routes) {r : Route} (hr : r ∈ routes) : r.rank ≤ route.rank := by
  obtain ⟨earlier, later, rfl, he, hl⟩ := h
  rcases List.mem_append.1 hr with hr | hr
  · exact le_of_lt (he r hr)
  · rcases List.mem_cons.1 hr with rfl | hr
    · exact le_refl _
    · exact hl r hr

/-- A route that is more specific than all before it takes their place. -/
theorem replace (h : route.FirstOfBest routes) {new : Route} (hlt : route.rank < new.rank) :
    new.FirstOfBest (routes ++ [new]) := by
  refine ⟨routes, [], rfl, ?_, by simp⟩
  intro r hr
  exact lt_of_le_of_lt (h.rank_le hr) hlt

/-- A route that is not more specific than the best one changes nothing. -/
theorem keep (h : route.FirstOfBest routes) {new : Route} (hle : ¬ route.rank < new.rank) :
    route.FirstOfBest (routes ++ [new]) := by
  obtain ⟨earlier, later, rfl, he, hl⟩ := h
  refine ⟨earlier, later ++ [new], by simp, he, ?_⟩
  intro r hr
  rcases List.mem_append.1 hr with hr | hr
  · exact hl r hr
  · rw [List.mem_singleton.1 hr]
    exact not_lt.1 hle

theorem singleton (route : Route) : route.FirstOfBest [route] := ⟨[], [], rfl, by simp, by simp⟩

end Route.FirstOfBest

/-! ### The pass over the table -/

/-- The routes of a list that match a path. -/
def Route.matching (path : String) (routes : List Route) : List Route :=
  routes.filter fun r => (r.pattern.match? path).isSome

/-- The routes of a table that match a path, in the order of the table. -/
def RouteTable.matching (t : RouteTable) (path : String) : List Route := Route.matching path t.routes

/-- What a pass for a method and a path holds after the routes it has seen. -/
structure Scan.Knows (method : Method) (path : String) (seen : List Route) (s : Scan) : Prop where
  none_of_best : s.best = none → (Route.matching path seen).filter (·.method = method) = []
  of_best : ∀ route params, s.best = some (route, params) →
    route.FirstOfBest ((Route.matching path seen).filter (·.method = method)) ∧
      route.pattern.match? path = some params
  allowed : s.allowed = (((Route.matching path seen).filter (·.method ≠ method)).map (·.method)).eraseDups

namespace Scan

variable {method : Method} {path : String} {seen : List Route} {s : Scan} {route : Route}

private theorem eraseDups_append_singleton (methods : List Method) (new : Method) :
    (methods ++ [new]).eraseDups = if new ∈ methods then methods.eraseDups else methods.eraseDups ++ [new] := by
  rw [List.eraseDups_append]
  by_cases h : new ∈ methods <;> simp [List.removeAll, List.eraseDups_cons, h]

private theorem matching_append_of_match {params : Params} (h : route.pattern.match? path = some params) :
    Route.matching path (seen ++ [route]) = Route.matching path seen ++ [route] := by
  simp [Route.matching, h]

private theorem Knows.visit_same {params : Params} (h : Knows method path seen s)
    (hp : route.pattern.match? path = some params) (hm : route.method = method) :
    Knows method path (seen ++ [route]) (s.visit method path route) := by
  have hothers : ((Route.matching path (seen ++ [route])).filter (·.method ≠ method)) =
      (Route.matching path seen).filter (·.method ≠ method) := by
    rw [matching_append_of_match hp, List.filter_append]
    simp [hm]
  have hcandidates : ((Route.matching path (seen ++ [route])).filter (·.method = method)) =
      (Route.matching path seen).filter (·.method = method) ++ [route] := by
    rw [matching_append_of_match hp, List.filter_append]
    simp [hm]
  simp only [visit, hp, hm, if_true]
  -- the other methods stay; the best route is replaced only by a strictly more specific one
  split
  · rename_i hbetter
    refine ⟨by simp, ?_, by rw [hothers]; exact h.allowed⟩
    rintro _ _ ⟨⟩
    refine ⟨?_, hp⟩
    rw [hcandidates]
    cases hbest : s.best with
    | none =>
      rw [h.none_of_best hbest]
      exact .singleton route
    | some best =>
      rw [hbest] at hbetter
      refine (h.of_best best.1 best.2 hbest).1.replace ?_
      exact Pattern.specificity_lt_iff.1 (by simpa using hbetter)
  · rename_i hworse
    refine ⟨?_, ?_, by rw [hothers]; exact h.allowed⟩
    · intro hnone
      rw [hnone] at hworse
      simp at hworse
    · intro best params' hbest
      rw [hbest] at hworse
      obtain ⟨hfirst, hparams⟩ := h.of_best best params' hbest
      refine ⟨?_, hparams⟩
      rw [hcandidates]
      refine hfirst.keep ?_
      intro hlt
      exact hworse (by simpa using Pattern.specificity_lt_iff.2 hlt)

private theorem Knows.visit_other {params : Params} (h : Knows method path seen s)
    (hp : route.pattern.match? path = some params) (hm : route.method ≠ method) :
    Knows method path (seen ++ [route]) (s.visit method path route) := by
  have hcandidates : ((Route.matching path (seen ++ [route])).filter (·.method = method)) =
      (Route.matching path seen).filter (·.method = method) := by
    rw [matching_append_of_match hp, List.filter_append]
    simp [hm]
  have hothers : (((Route.matching path (seen ++ [route])).filter (·.method ≠ method)).map (·.method)).eraseDups =
      if route.method ∈ s.allowed then s.allowed else s.allowed ++ [route.method] := by
    have hlast : [route].filter (·.method ≠ method) = [route] := by simp [hm]
    rw [matching_append_of_match hp, List.filter_append, List.map_append, hlast, List.map_singleton,
      eraseDups_append_singleton, h.allowed]
    simp only [List.mem_eraseDups]
  simp only [visit, hp, hm, if_false]
  -- the best route stays; the method is added unless it is there
  split
  · rename_i hold
    rw [if_pos hold] at hothers
    exact ⟨by rw [hcandidates]; exact h.none_of_best, by rw [hcandidates]; exact h.of_best, hothers.symm⟩
  · rename_i hnew
    rw [if_neg hnew] at hothers
    exact ⟨by rw [hcandidates]; exact h.none_of_best, by rw [hcandidates]; exact h.of_best, hothers.symm⟩

/-- One more route: what the pass holds stays right. -/
theorem Knows.visit (h : Knows method path seen s) (route : Route) :
    Knows method path (seen ++ [route]) (s.visit method path route) := by
  cases hp : route.pattern.match? path with
  | none =>
    have hskip : Route.matching path (seen ++ [route]) = Route.matching path seen := by
      simp [Route.matching, hp]
    simp only [Scan.visit, hp]
    exact ⟨by rw [hskip]; exact h.none_of_best, by rw [hskip]; exact h.of_best, by rw [hskip]; exact h.allowed⟩
  | some params =>
    by_cases hm : route.method = method
    · exact h.visit_same hp hm
    · exact h.visit_other hp hm

/-- Any number of further routes: what the pass holds stays right. -/
theorem Knows.foldl_visit (h : Knows method path seen s) (rest : List Route) :
    Knows method path (seen ++ rest) (rest.foldl (Scan.visit method path) s) := by
  induction rest generalizing seen s with
  | nil => simpa using h
  | cons route rest ih =>
    rw [List.foldl_cons, List.append_cons]
    exact ih (h.visit route)

end Scan

namespace RouteTable

variable (t : RouteTable) (method : Method) (path : String)

theorem knows_scan : Scan.Knows method path t.routes (t.scan method path) := by
  have hstart : Scan.Knows method path [] {} := ⟨fun _ => rfl, by simp, rfl⟩
  exact hstart.foldl_visit t.routes

/-! ### The three answers -/

private theorem others_eq_matching (h : ∀ r ∈ t.matching path, r.method ≠ method) :
    (t.matching path).filter (·.method ≠ method) = t.matching path := by
  rw [List.filter_eq_self]
  intro r hr
  simpa using h r hr

private theorem best_eq_none (h : ∀ r ∈ t.matching path, r.method ≠ method) :
    (t.scan method path).best = none := by
  cases hbest : (t.scan method path).best with
  | none => rfl
  | some hit =>
    obtain ⟨⟨earlier, later, heq, -⟩, -⟩ := (t.knows_scan method path).of_best hit.1 hit.2 hbest
    have hmem : hit.1 ∈ (t.matching path).filter (·.method = method) := by
      unfold matching
      rw [heq]
      simp
    rw [List.mem_filter] at hmem
    exact absurd (by simpa using hmem.2) (h hit.1 hmem.1)

/-- Without a matching route nothing is found. -/
theorem resolve_eq_notFound (h : t.matching path = []) :
    t.resolve method path = .error (.notFound method path) := by
  have hbest := t.best_eq_none method path (by simp [h])
  have hallowed : (t.scan method path).allowed = [] := by
    rw [(t.knows_scan method path).allowed]
    unfold matching at h
    simp [h]
  simp [resolve, hbest, hallowed]

/-- With matching routes of other methods only, these methods are told. -/
theorem resolve_eq_methodNotAllowed (hne : t.matching path ≠ [])
    (h : ∀ r ∈ t.matching path, r.method ≠ method) :
    t.resolve method path =
      .error (.methodNotAllowed method path ((t.matching path).map (·.method)).eraseDups) := by
  have hbest := t.best_eq_none method path h
  have hallowed : (t.scan method path).allowed = ((t.matching path).map (·.method)).eraseDups := by
    rw [(t.knows_scan method path).allowed]
    have hothers := t.others_eq_matching method path h
    unfold matching at hothers ⊢
    rw [hothers]
  have hsome : ((t.matching path).map (·.method)).eraseDups ≠ [] := by
    obtain ⟨r, hr⟩ := List.exists_mem_of_ne_nil _ hne
    have hm : r.method ∈ ((t.matching path).map (·.method)).eraseDups :=
      List.mem_eraseDups.2 (List.mem_map.2 ⟨r, hr, rfl⟩)
    exact List.ne_nil_of_mem hm
  simp [resolve, hbest, hallowed, hsome]

/-- With a matching route of the method, the first of the most specific ones is taken, with what its own pattern reads
off the path. -/
theorem exists_resolve_eq_ok (h : ∃ r ∈ t.matching path, r.method = method) :
    ∃ route params, t.resolve method path = .ok (route, params) ∧
      route.FirstOfBest ((t.matching path).filter (·.method = method)) ∧
      route.pattern.match? path = some params := by
  obtain ⟨r, hr, hm⟩ := h
  have hknows := t.knows_scan method path
  cases hbest : (t.scan method path).best with
  | none =>
    have hmem : r ∈ (t.matching path).filter (·.method = method) := List.mem_filter.2 ⟨hr, by simpa using hm⟩
    unfold matching at hmem
    rw [hknows.none_of_best hbest] at hmem
    simp at hmem
  | some hit =>
    obtain ⟨hfirst, hparams⟩ := hknows.of_best hit.1 hit.2 hbest
    exact ⟨hit.1, hit.2, by simp [resolve, hbest], hfirst, hparams⟩

end RouteTable

/-! ### Running the handler -/

/-- What a result of the handler of a route means for the request. -/
def Route.meaning (route : Route) : HandlerResult → Except DispatchError Response
  | .response r => .ok r
  | .failure cause => .error (.handlerFailed cause)
  | .crash message => .error (.handlerFailed (route.crashCause message))

theorem Route.conclude_eq_returned (route : Route) (result : HandlerResult) :
    route.conclude result = .returned (route.meaning result) := by
  cases result <;> rfl

namespace RouteTable

variable {t : RouteTable} {request : Request}

theorem dispatchDuring_of_error {e : DispatchError} (h : t.resolve request.method request.path = .error e)
    (phaseAt : Nat → Phase) :
    t.dispatchDuring request phaseAt = { attempt := .returned (.error e), returns := rfl } := by
  unfold dispatchDuring
  rw [h]

theorem dispatchDuring_of_ok {route : Route} {params : Params}
    (h : t.resolve request.method request.path = .ok (route, params)) (phaseAt : Nat → Phase) :
    t.dispatchDuring request phaseAt =
      { attempt := route.conclude (route.handler ⟨request, params, phaseAt⟩).result
        returns := route.isReturned_conclude _
        duration := (route.handler ⟨request, params, phaseAt⟩).duration
        log := .requestDispatched request.method.text request.path route.pattern.text ::
          (route.handler ⟨request, params, phaseAt⟩).log.map .app } := by
  unfold dispatchDuring
  rw [h]

/-- What a dispatch records: which route is taken, and what its handler records. -/
theorem mem_log_dispatchDuring {phaseAt : Nat → Phase} {entry : LogEntry}
    (h : entry ∈ (t.dispatchDuring request phaseAt).log) :
    (∃ method path pattern, entry = .requestDispatched method path pattern) ∨ ∃ recorded, entry = .app recorded := by
  cases hr : t.resolve request.method request.path with
  | error e =>
    rw [dispatchDuring_of_error hr] at h
    cases h
  | ok hit =>
    obtain ⟨route, params⟩ := hit
    rw [dispatchDuring_of_ok hr] at h
    rcases List.mem_cons.1 h with rfl | h
    · exact .inl ⟨_, _, _, rfl⟩
    · obtain ⟨recorded, -, rfl⟩ := List.mem_map.1 h
      exact .inr ⟨recorded, rfl⟩

theorem duration_dispatchDuring_of_error {e : DispatchError}
    (h : t.resolve request.method request.path = .error e) (phaseAt : Nat → Phase) :
    (t.dispatchDuring request phaseAt).duration = 0 := by
  rw [dispatchDuring_of_error h]

/-- A dispatch takes as long as the handler. -/
theorem duration_dispatchDuring_of_ok {route : Route} {params : Params}
    (h : t.resolve request.method request.path = .ok (route, params)) (phaseAt : Nat → Phase) :
    (t.dispatchDuring request phaseAt).duration = (route.handler ⟨request, params, phaseAt⟩).duration := by
  rw [dispatchDuring_of_ok h]

theorem result_dispatchDuring_of_error {e : DispatchError}
    (h : t.resolve request.method request.path = .error e) (phaseAt : Nat → Phase) :
    (t.dispatchDuring request phaseAt).result = .error e := by
  rw [dispatchDuring_of_error h]
  rfl

theorem result_dispatchDuring_of_ok {route : Route} {params : Params}
    (h : t.resolve request.method request.path = .ok (route, params)) (phaseAt : Nat → Phase) :
    (t.dispatchDuring request phaseAt).result =
      route.meaning (route.handler ⟨request, params, phaseAt⟩).result := by
  rw [dispatchDuring_of_ok h]
  simp [Dispatch.result, Route.conclude_eq_returned]

end RouteTable

/-! ### Registration -/

/-- The route that is asked for, if its pattern can be read. -/
def RouteSpec.route? (spec : RouteSpec) : Option Route :=
  (Pattern.parse spec.pattern).toOption.map fun pattern => ⟨spec.method, pattern, spec.handler⟩

/-- What is wrong with the pattern of a route that is asked for. -/
def RouteSpec.error? (spec : RouteSpec) : Option PatternError :=
  match Pattern.parse spec.pattern with
  | .ok _ => none
  | .error e => some e

namespace RouteTable

/-- Of the routes asked for, those whose patterns can be read stand in the table, behind what was there before. -/
theorem routes_routeEach (t : RouteTable) (specs : List RouteSpec) :
    (t.routeEach specs).value.2.routes = t.routes ++ specs.filterMap RouteSpec.route? := by
  induction specs generalizing t with
  | nil => simp [routeEach]
  | cons spec rest ih =>
    cases hp : Pattern.parse spec.pattern with
    | error e =>
      have hroute : spec.route? = none := by simp [RouteSpec.route?, hp, Except.toOption]
      simp [routeEach, route, hp, ih, hroute]
    | ok pattern =>
      have hroute : spec.route? = some ⟨spec.method, pattern, spec.handler⟩ := by
        simp [RouteSpec.route?, hp, Except.toOption]
      simp [routeEach, route, register, hp, ih, hroute]

theorem errors_routeEach (t : RouteTable) (specs : List RouteSpec) :
    (t.routeEach specs).value.1 = specs.map RouteSpec.error? := by
  induction specs generalizing t with
  | nil => rfl
  | cons spec rest ih =>
    cases hp : Pattern.parse spec.pattern with
    | error e => simp [routeEach, route, RouteSpec.error?, hp, ih]
    | ok pattern => simp [routeEach, route, register, RouteSpec.error?, hp, ih]

/-- A table that was built call by call holds the routes that could be added, in the order of the calls, and a request
is answered by the first of the most specific routes for its path and its method.  If there is none, the answer tells
whether the path has other methods, and which. -/
theorem dispatch_routeEach (specs : List RouteSpec) (request : Request) (phaseAt : Nat → Phase) :
    let called := (({} : RouteTable).routeEach specs).value
    let M := called.2.matching request.path
    let d := called.2.dispatchDuring request phaseAt
    called.1 = specs.map RouteSpec.error? ∧
    called.2.routes = specs.filterMap RouteSpec.route? ∧
    (M = [] → d.result = .error (.notFound request.method request.path)) ∧
    (M ≠ [] → (∀ r ∈ M, r.method ≠ request.method) →
      d.result = .error (.methodNotAllowed request.method request.path (M.map (·.method)).eraseDups)) ∧
    ((∃ r ∈ M, r.method = request.method) →
      ∃ (route : Route) (params : Params), route.FirstOfBest (M.filter (·.method = request.method)) ∧
        route.pattern.match? request.path = some params ∧
        let run := route.handler ⟨request, params, phaseAt⟩
        d.duration = run.duration ∧
        (∀ response, run.result = .response response → d.result = .ok response) ∧
        (∀ cause, run.result = .failure cause → d.result = .error (.handlerFailed cause)) ∧
        ∀ message, run.result = .crash message → d.result = .error (.handlerFailed (route.crashCause message))) := by
  intro called M d
  refine ⟨errors_routeEach {} specs, ?_, ?_, ?_, ?_⟩
  · simpa using routes_routeEach {} specs
  · intro hM
    exact result_dispatchDuring_of_error (called.2.resolve_eq_notFound _ _ hM) phaseAt
  · intro hne hM
    exact result_dispatchDuring_of_error (called.2.resolve_eq_methodNotAllowed _ _ hne hM) phaseAt
  · intro hM
    obtain ⟨route, params, hresolve, hfirst, hparams⟩ := called.2.exists_resolve_eq_ok _ _ hM
    have hresult : d.result = route.meaning (route.handler ⟨request, params, phaseAt⟩).result :=
      result_dispatchDuring_of_ok hresolve phaseAt
    refine ⟨route, params, hfirst, hparams, duration_dispatchDuring_of_ok hresolve phaseAt, ?_, ?_, ?_⟩
    · intro response h
      rw [hresult, h]
      rfl
    · intro cause h
      rw [hresult, h]
      rfl
    · intro message h
      rw [hresult, h]
      rfl

end RouteTable

end CatalogGateway
