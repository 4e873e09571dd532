import CatalogGateway.Entrypoint
import CatalogGateway.Proofs.Answer.Envelope
import CatalogGateway.Proofs.Lists
import CatalogGateway.Proofs.Route.Resolution
import CatalogGateway.Proofs.Text.Pieces

/-!
# The methods that a refusal tells

A request that is refused because of its method is told the methods with which it would have got to a handler, in a
header that is always there: methods are tokens, so they can be put together in it and taken apart again
(`allow_lists_methods`).
-/

namespace CatalogGateway

/-! ### Methods in a header -/

theorem toNat_lt_of_isTokenChar {c : Char} (h : isTokenChar c = true) : c.toNat < 128 := by
  unfold isTokenChar at h
  rw [Bool.or_eq_true] at h
  rcases h with h | h
  · have hle : c.val ≤ 122 := by
      change ((decide (65 ≤ c.val ∧ c.val ≤ 90) || (decide (97 ≤ c.val) && decide (c.val ≤ 122))) ||
        (decide (48 ≤ c.val) && decide (c.val ≤ 57))) = true at h
      simp only [Bool.or_eq_true, Bool.and_eq_true, decide_eq_true_eq] at h
      rcases h with (⟨-, hupper⟩ | ⟨-, hlower⟩) | ⟨-, hdigit⟩
      · exact UInt32.le_trans hupper (by decide)
      · exact hlower
      · exact UInt32.le_trans hdigit (by decide)
    exact Nat.lt_of_le_of_lt (UInt32.le_iff_toNat_le.1 hle) (by decide)
  · have hmarks : tokenMarks.all (·.toNat < 128) = true := by decide
    exact of_decide_eq_true (List.all_eq_true.1 hmarks c (List.contains_iff_mem.1 h))

/-- Token characters are octets of their own that read as text, and none of them is a comma. -/
theorem plain_of_isTokenChar {c : Char} (h : isTokenChar c = true) :
    (String.utf8EncodeChar c).all isPlainByte = true ∧ c ≠ ',' := by
  have hall : ∀ n : Fin 128, isTokenChar (Char.ofNat n) = true →
      (String.utf8EncodeChar (Char.ofNat n)).all isPlainByte = true ∧ Char.ofNat n ≠ ',' := by decide
  have hc := hall ⟨c.toNat, toNat_lt_of_isTokenChar h⟩
  rw [Char.ofNat_toNat] at hc
  exact hc h

theorem isFieldByte_of_isPlainByte {b : UInt8} (h : isPlainByte b = true) : isFieldByte b = true := by
  unfold isPlainByte at h
  unfold isFieldByte
  rw [Bool.or_eq_true, Bool.and_eq_true, decide_eq_true_eq, decide_eq_true_eq] at h
  rw [Bool.or_eq_true, Bool.and_eq_true, decide_eq_true_eq, decide_eq_true_eq]
  refine h.imp_right fun hrange => ⟨hrange.1, ?_⟩
  exact UInt8.ne_of_lt hrange.2

/-- A text of octets that read as text is a header value that reads as it. -/
theorem HeaderValue.exists_ofText?_eq_some {s : String} (h : (Text.Utf8.encode s).all isPlainByte = true) :
    ∃ value, ofText? s = some value ∧ value.bytes = Text.Utf8.encode s ∧ value.text? = some s := by
  have hvalid : (Text.Utf8.encode s).all isFieldByte = true := by
    rw [List.all_eq_true] at h ⊢
    exact fun b hb => isFieldByte_of_isPlainByte (h b hb)
  refine ⟨⟨Text.Utf8.encode s, hvalid⟩, ?_, rfl, ?_⟩
  · rw [ofText?, ofBytes?, dif_pos hvalid]
  · exact text?_eq_some_iff.2 ⟨h, rfl⟩

/-- The header value that tells methods. -/
def Method.list (methods : List Method) : String := ", ".intercalate (methods.map Method.text)

namespace Method

theorem isTokenChar_of_mem (m : Method) {c : Char} (h : c ∈ m.text.toList) : isTokenChar c = true := by
  have hvalid := m.valid
  unfold isToken at hvalid
  rw [Bool.and_eq_true] at hvalid
  exact List.all_eq_true.1 hvalid.2 c h

theorem plain_text (m : Method) : (Text.Utf8.encode m.text).all isPlainByte = true := by
  rw [Text.Utf8.encode, List.all_eq_true]
  intro b hb
  obtain ⟨c, hc, hb⟩ := List.mem_flatMap.1 hb
  exact List.all_eq_true.1 (plain_of_isTokenChar (m.isTokenChar_of_mem hc)).1 b hb

variable (methods : List Method)

theorem plain_list : (Text.Utf8.encode (list methods)).all isPlainByte = true := by
  induction methods with
  | nil => rfl
  | cons m rest ih =>
    cases rest with
    | nil =>
      rw [list, List.map_singleton, String.intercalate_singleton]
      exact m.plain_text
    | cons next later =>
      have hlist : list (m :: next :: later) = m.text ++ ", " ++ list (next :: later) := String.intercalate_cons_cons
      have hcomma : (Text.Utf8.encode ", ").all isPlainByte = true := by decide
      rw [hlist, Text.Utf8.encode_append, Text.Utf8.encode_append, List.all_append, List.all_append, m.plain_text,
        hcomma, ih]
      rfl

theorem split_list (h : methods ≠ []) : Text.split ", " (list methods) = methods.map Method.text := by
  refine Text.split_intercalate rfl (mt List.map_eq_nil_iff.1 h) (List.forall_mem_map.2 fun m _ hcomma => ?_)
  exact (plain_of_isTokenChar (m.isTokenChar_of_mem hcomma)).2 rfl

theorem nodup_map_text {methods : List Method} (h : methods.Nodup) : (methods.map Method.text).Nodup :=
  h.map fun _ _ => Method.ext

end Method

/-! ### The header of a refusal -/

/-- The response has one header that tells the methods there are, and its envelope has it too. -/
structure Response.Allows (r : Response) (text : String) : Prop where
  header : ∃ value, r.headers.getAll .allow = [value] ∧ value.text? = some text
  envelope : (Envelope.ofResponse r).headers.get? "allow" = some text

theorem DispatchError.allows_methodNotAllowed (method : Method) (path : String) (allowed : List Method)
    (requestId : String) :
    ((methodNotAllowed method path allowed).toResponse requestId).value.Allows (Method.list allowed) := by
  obtain ⟨value, hvalue, hbytes, htext⟩ := HeaderValue.exists_ofText?_eq_some (Method.plain_list allowed)
  have hheaders : ∃ headers : Headers,
      ((methodNotAllowed method path allowed).toResponse requestId).value.headers = headers.set .allow value := by
    rw [Method.list] at hvalue
    unfold toResponse
    dsimp only
    rw [hvalue]
    exact ⟨_, rfl⟩
  obtain ⟨headers, hheaders⟩ := hheaders
  have hgetAll := headers.getAll_set_self .allow value
  rw [← hheaders] at hgetAll
  constructor
  case header => exact ⟨value, hgetAll, htext⟩
  case envelope =>
    have hne : HeaderName.allow ≠ HeaderName.setCookie := by decide
    have hget := Envelope.get?_headers ((methodNotAllowed method path allowed).toResponse requestId).value hne
    rw [hgetAll, if_neg (List.cons_ne_nil _ _), Envelope.headerTexts, hgetAll, List.map_singleton, hbytes,
      Text.Utf8.decodeLenient_encode, String.intercalate_singleton] at hget
    exact hget

/-! ### Which methods get to a handler -/

/-- The request got to a handler, whatever that came to. -/
def Dispatch.ReachesHandler (d : Dispatch) : Prop :=
  (∀ method path, d.result ≠ .error (.notFound method path)) ∧
    ∀ method path allowed, d.result ≠ .error (.methodNotAllowed method path allowed)

namespace RouteTable

variable (t : RouteTable) (method : Method) (path : String)

/-- What a table finds for a method and a path. -/
inductive Finds : Except DispatchError Hit → Prop where
  | nothing (h : t.matching path = []) : Finds (.error (.notFound method path))
  | others (hne : t.matching path ≠ []) (h : ∀ r ∈ t.matching path, r.method ≠ method) :
    Finds (.error (.methodNotAllowed method path ((t.matching path).map (·.method)).eraseDups))
  | route (h : ∃ r ∈ t.matching path, r.method = method) (hit : Hit) : Finds (.ok hit)

theorem finds_resolve : t.Finds method path (t.resolve method path) := by
  by_cases hnone : t.matching path = []
  · rw [t.resolve_eq_notFound method path hnone]
    exact .nothing hnone
  · by_cases hsome : ∃ r ∈ t.matching path, r.method = method
    · obtain ⟨route, params, hresolve, -⟩ := t.exists_resolve_eq_ok method path hsome
      rw [hresolve]
      exact .route hsome _
    · have hothers : ∀ r ∈ t.matching path, r.method ≠ method := fun r hr hm => hsome ⟨r, hr, hm⟩
      rw [t.resolve_eq_methodNotAllowed method path hnone hothers]
      exact .others hnone hothers

variable {t} {request : Request} {phaseAt : Nat → Phase}

/-- A result that is none of a handler is that of the search for a route. -/
theorem resolve_of_result {error : DispatchError} (h : (t.dispatchDuring request phaseAt).result = .error error)
    (hne : ∀ cause, error ≠ .handlerFailed cause) : t.resolve request.method request.path = .error error := by
  cases hresolve : t.resolve request.method request.path with
  | error e =>
    rw [result_dispatchDuring_of_error hresolve] at h
    rw [Except.error.inj h]
  | ok hit =>
    obtain ⟨route, params⟩ := hit
    rw [result_dispatchDuring_of_ok hresolve] at h
    cases hrun : (route.handler ⟨request, params, phaseAt⟩).result with
    | response r =>
      rw [hrun] at h
      cases h
    | failure cause =>
      rw [hrun] at h
      exact absurd (Except.error.inj h).symm (hne cause)
    | crash message =>
      rw [hrun] at h
      exact absurd (Except.error.inj h).symm (hne _)

theorem reachesHandler_iff :
    (t.dispatchDuring request phaseAt).ReachesHandler ↔ ∃ r ∈ t.matching request.path, r.method = request.method := by
  have hfinds := t.finds_resolve request.method request.path
  constructor
  · rintro ⟨hnot, hnot'⟩
    generalize hresolve : t.resolve request.method request.path = found at hfinds
    cases hfinds with
    | nothing h => exact absurd (result_dispatchDuring_of_error hresolve phaseAt) (hnot _ _)
    | others hne h => exact absurd (result_dispatchDuring_of_error hresolve phaseAt) (hnot' _ _ _)
    | route h hit => exact h
  · intro hsome
    obtain ⟨route, params, hok, -⟩ := t.exists_resolve_eq_ok request.method request.path hsome
    constructor
    · intro method path hresult
      rw [resolve_of_result hresult nofun] at hok
      cases hok
    · intro method path allowed hresult
      rw [resolve_of_result hresult nofun] at hok
      cases hok

end RouteTable

/-- A refusal because of the method tells, in one header, the methods with which the request would have got to a
handler, each once, and no others.  A request for which there is nothing has nothing with any other method either. -/
theorem allow_lists_methods (t : RouteTable) (request : Request) (phaseAt : Nat → Phase) (requestId : String) :
    (∀ method path allowed,
      (t.dispatchDuring request phaseAt).result = .error (.methodNotAllowed method path allowed) →
      ∃ text methods, ((DispatchError.methodNotAllowed method path allowed).toResponse requestId).value.Allows text ∧
        Text.split ", " text = methods.map Method.text ∧ methods ≠ [] ∧ (methods.map Method.text).Nodup ∧
        (∀ m, m ∈ methods ↔ (t.dispatchDuring { request with method := m } phaseAt).ReachesHandler) ∧
        request.method ∉ methods) ∧
    (∀ method path, (t.dispatchDuring request phaseAt).result = .error (.notFound method path) →
      ∀ m, (t.dispatchDuring { request with method := m } phaseAt).result = .error (.notFound m request.path)) := by
  constructor
  · intro method path allowed hresult
    have hresolve := RouteTable.resolve_of_result hresult nofun
    have hfinds := t.finds_resolve request.method request.path
    rw [hresolve] at hfinds
    cases hfinds with
    | others hne hothers =>
      have hmem : ∀ m, m ∈ ((t.matching request.path).map (·.method)).eraseDups ↔
          ∃ r ∈ t.matching request.path, r.method = m := by
        intro m
        rw [List.mem_eraseDups, List.mem_map]
      obtain ⟨r, hr⟩ := List.exists_mem_of_ne_nil _ hne
      have hsome := List.ne_nil_of_mem ((hmem r.method).2 ⟨r, hr, rfl⟩)
      refine ⟨_, _, DispatchError.allows_methodNotAllowed _ _ _ requestId, Method.split_list _ hsome, hsome,
        Method.nodup_map_text (nodup_eraseDups _), ?_, ?_⟩
      · intro m
        rw [hmem, RouteTable.reachesHandler_iff]
      · rw [hmem]
        rintro ⟨r, hr, hm⟩
        exact hothers r hr hm
  · intro method path hresult m
    have hresolve := RouteTable.resolve_of_result hresult nofun
    have hfinds := t.finds_resolve request.method request.path
    rw [hresolve] at hfinds
    cases hfinds with
    | nothing hnone =>
      let other : Request := { request with method := m }
      have hnothing : t.resolve other.method other.path = .error (.notFound m request.path) :=
        t.resolve_eq_notFound _ _ hnone
      exact RouteTable.result_dispatchDuring_of_error hnothing phaseAt

namespace Sample

def purge : Method := ⟨"PURGE", by decide⟩

def delete : Method := ⟨"DELETE", by decide⟩

/-- A table in which one path has two methods, one of them by two routes. -/
def cacheTable : RouteTable where
  routes := [
    ⟨.get, ⟨"/{name}", [.param "name"]⟩, .ofResponse fun _ => .text "entry"⟩,
    ⟨purge, ⟨"/{*names}", [.tail "names"]⟩, .ofResponse fun _ => .text "purged"⟩,
    ⟨.get, ⟨"/cache", [.literal "cache"]⟩, .ofResponse fun _ => .text "cache"⟩]

def deleteCache : Request := { method := delete, path := "/cache" }

theorem matching_cacheTable : cacheTable.matching "/cache" = cacheTable.routes := by
  have hpath : pathSegments "/cache" = ["cache"] := by decide
  simp [RouteTable.matching, Route.matching, cacheTable, Pattern.match?, hpath, Pattern.matchSegments]

end Sample

/-- A refused request learns of both methods that its path has, the unusual one included. -/
theorem allow_lists_methods_deleteCache :
    let refused := DispatchError.methodNotAllowed Sample.delete "/cache" [.get, Sample.purge]
    (Sample.cacheTable.dispatchDuring Sample.deleteCache fun _ => .handling).result = .error refused ∧
    ∃ (text : String) (methods : List Method), (refused.toResponse "refused").value.Allows text ∧
      Text.split ", " text = methods.map Method.text ∧
      Method.get ∈ methods ∧ Sample.purge ∈ methods ∧ Sample.delete ∉ methods := by
  intro refused
  have hothers : ∀ r ∈ Sample.cacheTable.matching "/cache", r.method ≠ Sample.delete := by
    rw [Sample.matching_cacheTable]
    decide
  have hne : Sample.cacheTable.matching "/cache" ≠ [] := by
    rw [Sample.matching_cacheTable]
    exact List.cons_ne_nil _ _
  have hresolve : Sample.cacheTable.resolve Sample.deleteCache.method Sample.deleteCache.path = .error refused := by
    show Sample.cacheTable.resolve Sample.delete "/cache" = _
    rw [RouteTable.resolve_eq_methodNotAllowed _ _ _ hne hothers, Sample.matching_cacheTable]
    rfl
  have hresult := RouteTable.result_dispatchDuring_of_error hresolve fun _ => .handling
  obtain ⟨text, methods, hallows, hsplit, -, -, hmethods, hnot⟩ :=
    (allow_lists_methods Sample.cacheTable Sample.deleteCache (fun _ => .handling) "refused").1 _ _ _ hresult
  have hreached : ∀ r ∈ Sample.cacheTable.routes, r.method ∈ methods := by
    intro r hr
    rw [hmethods, RouteTable.reachesHandler_iff]
    refine ⟨r, ?_, rfl⟩
    show r ∈ Sample.cacheTable.matching "/cache"
    rwa [Sample.matching_cacheTable]
  exact ⟨hresult, text, methods, hallows, hsplit, hreached _ (.head _), hreached _ (.tail _ (.head _)), hnot⟩

end CatalogGateway
