import CatalogGateway.Proofs.Event.Paths
import CatalogGateway.Proofs.Event.Room
import Mathlib.Data.Finset.Card

/-!
# Events that are accepted

An event that has room for its headers is accepted exactly if it is well formed (`Event.WellFormed`), and refused for the
first of its faults otherwise (`Event.FirstFault`), in the order method, path, headers, body (`events_accepted`).
-/

namespace CatalogGateway

namespace Event

variable {e : Event} {strip : Bool}

/-! ### Headers -/

/-- The values of a header name, put together. -/
def headerText (e : Event) (name : String) : String := (separator name).intercalate (e.headerValues name)

/-- There can be a header with the name and its value. -/
def CanHave (e : Event) (name : String) : Prop :=
  isHeaderName name = true ∧ (Text.Utf8.encode (e.headerText name)).all isFieldByte = true

/-- All headers of the event are possible. -/
def HasHeaders (e : Event) : Prop := ∀ name ∈ e.headerNames, e.CanHave name

/-- Of the names, in the order in which they are merged, the first with which there can be no header is reported, or its
value if the name is not to blame. -/
inductive HeaderFault (e : Event) : AdaptError → Prop where
  | name {name : String} (h : FirstIn (¬ e.CanHave ·) e.headerNames name) (hname : isHeaderName name = false) :
    HeaderFault e (.invalidHeaderName name)
  | value {name : String} (h : FirstIn (¬ e.CanHave ·) e.headerNames name) (hname : isHeaderName name = true) :
    HeaderFault e (.invalidHeaderValue name)

/-- The header that the event has for a name. -/
def field (e : Event) (name : String) : Except AdaptFailure (HeaderName × HeaderValue) :=
  headerField (name, e.headerValues name)

theorem field_eq {name : String} (hmem : name ∈ e.headerNames) : e.field name =
    if hname : isHeaderName name = true then
      if hvalue : (Text.Utf8.encode (e.headerText name)).all isFieldByte = true then .ok (⟨name, hname⟩, ⟨_, hvalue⟩)
      else .error (.rejected (.invalidHeaderValue name))
    else .error (.rejected (.invalidHeaderName name)) := by
  have hsmall := lowercase_of_mem_headerNames hmem
  unfold field headerField HeaderName.ofText? HeaderValue.ofText? HeaderValue.ofBytes?
  dsimp only
  rw [← headerText]
  simp only [hsmall]
  split_ifs <;> rfl

theorem exists_field_eq_error {name : String} (hmem : name ∈ e.headerNames) :
    (∃ failure, e.field name = .error failure) ↔ ¬ e.CanHave name := by
  rw [field_eq hmem, CanHave]
  split_ifs <;> simp_all

/-- With room for the headers, each name is read once, in the order in which the event has them. -/
theorem requestHeaders_of_room (hroom : e.headerNames.toFinset.card ≤ 24576) :
    e.requestHeaders = (e.headerNames.eraseDups.mapM e.field).map Headers.mk := by
  have hslots : ¬ maxHeaderSlots < headerSlots e.mergedHeaders.length := by
    rw [maxHeaderSlots_lt_headerSlots, e.length_mergedHeaders]
    omega
  unfold requestHeaders
  dsimp only
  rw [if_neg hslots, mergedHeaders_eq_map, List.mapM_map]
  rfl

/-- The first name with which there can be no header tells why there are none. -/
theorem requestHeaders_of_firstIn (hroom : e.headerNames.toFinset.card ≤ 24576) {name : String}
    (h : FirstIn (¬ e.CanHave ·) e.headerNames name) {failure : AdaptFailure} (hfield : e.field name = .error failure) :
    e.requestHeaders = .error failure := by
  have hfirst : FirstIn (fun name => ∃ failure, e.field name = .error failure) e.headerNames.eraseDups name :=
    firstIn_eraseDups.2 ((firstIn_congr fun _ hmem => exists_field_eq_error hmem).2 h)
  rw [requestHeaders_of_room hroom, mapM_eq_error_iff.2 ⟨name, hfirst, hfield⟩]
  rfl

theorem decided_requestHeaders (hroom : e.headerNames.toFinset.card ≤ 24576) :
    Decided e.requestHeaders e.HasHeaders e.HeaderFault where
  accepted := by
    intro h
    have hall : ∀ name ∈ e.headerNames.eraseDups, ∃ field, e.field name = .ok field := by
      intro name hname
      rw [List.mem_eraseDups] at hname
      cases hfield : e.field name with
      | ok field => exact ⟨field, rfl⟩
      | error failure => exact absurd (h name hname) ((exists_field_eq_error hname).1 ⟨failure, hfield⟩)
    obtain ⟨fields, hfields⟩ := exists_mapM_eq_ok.2 hall
    rw [requestHeaders_of_room hroom, hfields]
    exact ⟨_, rfl⟩
  refused := by
    rintro _ (⟨h, hname⟩ | ⟨h, hname⟩)
    · refine requestHeaders_of_firstIn hroom h ?_
      rw [field_eq h.mem, dif_neg (ne_true_of_eq_false hname)]
    · refine requestHeaders_of_firstIn hroom h ?_
      have hvalue := (not_and.1 h.holds) hname
      rw [field_eq h.mem, dif_pos hname, dif_neg hvalue]
  total := by
    by_cases h : e.HasHeaders
    · exact .inl h
    · unfold HasHeaders at h
      push Not at h
      obtain ⟨name, hfirst⟩ := exists_firstIn.2 h
      cases hname : isHeaderName name with
      | false => exact .inr ⟨_, .name hfirst hname⟩
      | true => exact .inr ⟨_, .value hfirst hname⟩

/-! ### Events -/

/-- A request can be made of the event. -/
structure WellFormed (e : Event) (strip : Bool) : Prop where
  method : e.HasMethod
  path : e.HasPath strip
  headers : e.HasHeaders
  body : e.HasBody

/-- The first fault of the event: everything that is read before it is as it should be. -/
inductive FirstFault (e : Event) (strip : Bool) : AdaptError → Prop where
  | method {error : AdaptError} (h : e.MethodFault error) : FirstFault e strip error
  | path {error : AdaptError} (hmethod : e.HasMethod) (h : e.PathFault strip error) : FirstFault e strip error
  | headers {error : AdaptError} (hmethod : e.HasMethod) (hpath : e.HasPath strip) (h : e.HeaderFault error) :
    FirstFault e strip error
  | body {error : AdaptError} (hmethod : e.HasMethod) (hpath : e.HasPath strip) (hheaders : e.HasHeaders)
    (h : e.BodyFault error) : FirstFault e strip error

theorem wellFormed_iff : e.HasMethod ∧ e.HasPath strip ∧ e.HasHeaders ∧ e.HasBody ∧ True ↔ e.WellFormed strip :=
  ⟨fun ⟨method, path, headers, body, _⟩ => ⟨method, path, headers, body⟩,
    fun h => ⟨h.method, h.path, h.headers, h.body, trivial⟩⟩

theorem firstFault_iff (error : AdaptError) : (e.MethodFault error ∨ e.HasMethod ∧ (e.PathFault strip error ∨
    e.HasPath strip ∧ (e.HeaderFault error ∨ e.HasHeaders ∧ (e.BodyFault error ∨ e.HasBody ∧ False)))) ↔
      e.FirstFault strip error := by
  constructor
  · rintro (h | ⟨hmethod, h | ⟨hpath, h | ⟨hheaders, h | ⟨-, ⟨⟩⟩⟩⟩⟩)
    · exact .method h
    · exact .path hmethod h
    · exact .headers hmethod hpath h
    · exact .body hmethod hpath hheaders h
  · rintro (h | ⟨hmethod, h⟩ | ⟨hmethod, hpath, h⟩ | ⟨hmethod, hpath, hheaders, h⟩)
    · exact .inl h
    · exact .inr ⟨hmethod, .inl h⟩
    · exact .inr ⟨hmethod, .inr ⟨hpath, .inl h⟩⟩
    · exact .inr ⟨hmethod, .inr ⟨hpath, .inr ⟨hheaders, .inl h⟩⟩⟩

theorem decided_toRequest (strip : Bool) (hroom : e.headerNames.toFinset.card ≤ 24576) :
    Decided (e.toRequest strip) (e.WellFormed strip) (e.FirstFault strip) := by
  refine Decided.congr ?_ wellFormed_iff firstFault_iff
  refine e.decided_method.bind fun method => ?_
  refine (e.decided_requestPath strip).bind fun path => ?_
  refine (decided_requestHeaders hroom).bind fun headers => ?_
  exact e.decided_requestBody.bind fun body => .pure _

/-- The method of a request is in capital letters. -/
theorem isLower_of_method {method : Method} (h : e.method = .ok method) {c : Char} (hc : c ∈ method.text.toList) :
    c.isLower = false := by
  cases htext : e.methodText? with
  | none =>
    simp [Event.method, htext] at h
  | some text =>
    rw [method_eq htext] at h
    split_ifs at h
    rw [← Except.ok.inj h] at hc
    exact Text.isLower_of_mem_uppercase hc

/-- What can be relied on of a request from the event. -/
structure Gives (e : Event) (r : Request) : Prop where
  method : ∀ c ∈ r.method.text.toList, c.isLower = false
  path : r.path.toList.head? = some '/'
  names : ∀ n ∈ r.headers.names, ∀ c ∈ n.text.toList, c.isUpper = false
  values : ∀ n ∈ r.headers.names, ∃ value, r.headers.getAll n = [value] ∧
    value.bytes = Text.Utf8.encode (e.headerText n.text)

theorem gives_of_toRequest {r : Request} (h : e.toRequest strip = .ok r) : e.Gives r := by
  have hmakes := toRequest_eq_ok_iff.1 h
  constructor
  case method => exact fun c hc => isLower_of_method hmakes.method hc
  case path => exact head?_of_requestPath hmakes.path
  case names =>
    intro n _ c hc
    have hvalid := n.valid
    simp only [isHeaderName, Bool.and_eq_true, List.all_eq_true] at hvalid
    simpa using hvalid.1.2 c hc
  case values =>
    intro n hn
    obtain ⟨n', htext, value, hvalue, hbytes⟩ :=
      exists_getAll_of_mem_headerNames hmakes.headers (text_mem_headerNames hmakes.headers hn)
    rw [HeaderName.ext htext] at hvalue
    exact ⟨value, hvalue, hbytes⟩

end Event

namespace Sample

/-- An event with two methods, and a body in base64. -/
def mixedEvent (method path body : String) : Event :=
  { version := some "2.0", httpMethod := some "PUT", rawPath := some path, headers := some [("X-Tag", "a")],
    body := some body, isBase64Encoded := true,
    requestContext := some { stage := some "prod", http := some { method := some method } } }

theorem mixedEvent_room (method path body : String) : (mixedEvent method path body).headerNames.toFinset.card ≤ 24576 :=
  (List.toFinset_card_le _).trans (by decide : (["x-tag"] : List String).length ≤ 24576)

end Sample

end CatalogGateway
