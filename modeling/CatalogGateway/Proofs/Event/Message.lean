import CatalogGateway.Proofs.Event.Headers
import CatalogGateway.Proofs.Event.Members

/-!
# Messages

A request from an event is made of what is read from its members (`Event.toRequest_eq_ok_iff`).  A message is what a client
sends, whatever the form in which an event hands it over.  An event from which the members of a message
are read (`Event.Reads`) gives the request that the message is exactly if the message can be one
(`Event.Reads.exists_toRequest_eq_ok`, `Event.Reads.readAs`), and of two such events neither says more than the other
(`Event.Reads.agree`).
-/

namespace CatalogGateway

/-- The request has what is read from the members of the event, one by one. -/
structure Event.MakesUp (e : Event) (strip : Bool) (r : Request) : Prop where
  method : e.method = .ok r.method
  path : e.requestPath strip = .ok r.path
  headers : e.requestHeaders = .ok r.headers
  query : e.query = r.query
  body : e.requestBody = .ok r.body
  requestId : e.requestId = r.requestId
  sourceIp : e.sourceIp? = r.sourceIp

theorem Event.toRequest_eq_ok_iff {e : Event} {strip : Bool} {r : Request} :
    e.toRequest strip = .ok r ↔ e.MakesUp strip r := by
  constructor
  · intro h
    obtain ⟨method, hmethod, h⟩ := bind_eq_ok_iff.1 h
    obtain ⟨path, hpath, h⟩ := bind_eq_ok_iff.1 h
    obtain ⟨headers, hheaders, h⟩ := bind_eq_ok_iff.1 h
    obtain ⟨body, hbody, h⟩ := bind_eq_ok_iff.1 h
    cases h
    exact ⟨hmethod, hpath, hheaders, rfl, hbody, rfl, rfl⟩
  · intro h
    unfold toRequest
    rw [h.method, h.path, h.headers, h.query, h.body, h.requestId, h.sourceIp]
    rfl

/-- What a client sends. -/
structure Message where
  method : String
  path : String
  rooted : path.toList.head? = some '/'
  /-- The header fields other than the cookies. -/
  fields : List (String × String) := []
  distinct : (HeaderName.cookie.text :: fieldNames fields).Nodup
  cookies : List String := []
  query : NameMap String := ∅
  body : Option Bytes := none
  requestId : String
  sourceIp : Option String := none

namespace Message

/-- The cookies as a header field of a given name. -/
def cookieField (m : Message) (name : String) : List (String × String) :=
  if m.cookies = [] then [] else [(name, "; ".intercalate m.cookies)]

/-- All header fields. -/
def allFields (m : Message) : List (String × String) := m.fields ++ m.cookieField HeaderName.cookie.text

/-- The method of the request, if there is one. -/
def method? (m : Message) : Option Method := Method.ofText? (Text.uppercase (Text.trim m.method))

/-- The message can be a request: its method and its header fields can be read, and there is room for all of them. -/
structure Readable (m : Message) : Prop where
  method : m.method?.isSome
  room : headerSlots m.allFields.length ≤ maxHeaderSlots
  fields : ∀ h ∈ m.allFields, (HeaderName.ofText? h.1).isSome ∧ (HeaderValue.ofText? h.2).isSome

/-- The request is the message: it has the method, the path and all else of it, and of headers those and no others. -/
structure ReadAs (m : Message) (r : Request) : Prop where
  method : m.method? = some r.method
  path : r.path = m.path
  headers : ∀ name value, value ∈ r.headers.getAll name ↔
    ∃ h ∈ m.allFields, HeaderName.ofText? h.1 = some name ∧ HeaderValue.ofText? h.2 = some value
  single : ∀ name, (r.headers.getAll name).length ≤ 1
  query : r.query = m.query.map ([·])
  body : r.body = m.body.getD []
  requestId : r.requestId = m.requestId
  sourceIp : r.sourceIp = m.sourceIp

variable (m : Message)

/-- The groups of the header fields and of the cookies. -/
def groups : MergedHeaders := m.allFields.map fieldGroup

/-- The cookies as a header field are the group of the cookies, its values put together. -/
theorem map_cookieField {name : String} (hname : Text.lowercase name = HeaderName.cookie.text) :
    (m.cookieField name).map fieldGroup = (cookieGroup m.cookies).map Event.joined := by
  unfold cookieField cookieGroup
  split
  · rfl
  · simp [fieldGroup, Event.joined, Event.separator, hname]

theorem groups_eq : m.groups = m.fields.map fieldGroup ++ (cookieGroup m.cookies).map Event.joined := by
  rw [groups, allFields, List.map_append, m.map_cookieField (by decide)]

theorem nodup_fieldNames : (fieldNames m.fields).Nodup := (List.nodup_cons.1 m.distinct).2

theorem cookie_not_mem : HeaderName.cookie.text ∉ fieldNames m.fields := (List.nodup_cons.1 m.distinct).1

theorem nodup_groups : (m.groups.map (·.1)).Nodup := by
  rw [groups_eq, List.map_append, map_fst_fieldGroup]
  unfold cookieGroup
  split
  · simpa using m.nodup_fieldNames
  · refine List.nodup_append.2 ⟨m.nodup_fieldNames, List.nodup_singleton _, ?_⟩
    rintro name hname _ hcookie rfl
    rw [List.mem_singleton.1 hcookie] at hname
    exact m.cookie_not_mem hname

/-- The request that the message is, with its method and its headers read. -/
def request (method : Method) (headers : Headers) : Request :=
  { method, path := m.path, headers, query := m.query.map ([·]), body := m.body.getD [], requestId := m.requestId,
    sourceIp := m.sourceIp }

end Message

/-- From the event are read the path and all else of the message, the texts of its method and of its header fields, and
these in some order. -/
structure Event.Reads (e : Event) (strip : Bool) (m : Message) : Prop where
  method : e.methodText? = some m.method
  path : e.requestPath strip = .ok m.path
  headers : e.joinedHeaders.Perm m.groups
  query : e.query = m.query.map ([·])
  body : e.requestBody = .ok (m.body.getD [])
  requestId : e.requestId = m.requestId
  sourceIp : e.sourceIp? = m.sourceIp

/-- Two requests are the same, whatever the order of their header fields. -/
structure Request.Same (r r' : Request) : Prop where
  method : r.method = r'.method
  path : r.path = r'.path
  headers : ∀ name, r.headers.getAll name = r'.headers.getAll name
  query : r.query = r'.query
  body : r.body = r'.body
  requestId : r.requestId = r'.requestId
  sourceIp : r.sourceIp = r'.sourceIp

namespace Event.Reads

variable {e e' : Event} {strip strip' : Bool} {m : Message} {method : Method} {headers : Headers} {r : Request}

/-- The method and the headers decide. -/
theorem toRequest_eq (h : e.Reads strip m) :
    e.toRequest strip = e.method >>= fun method => e.requestHeaders >>= fun headers => .ok (m.request method headers) := by
  unfold toRequest
  rw [h.path, h.body, h.query, h.requestId, h.sourceIp]
  rfl

theorem method_eq_ok_iff (h : e.Reads strip m) : e.method = .ok method ↔ m.method? = some method := by
  rw [method_eq h.method, Message.method?, Method.ofText?]
  split_ifs with hblank htoken
  · rw [hblank] at htoken
    exact absurd htoken (by decide)
  · simp
  · simp
  · simp

theorem toRequest_eq_ok_iff (h : e.Reads strip m) : e.toRequest strip = .ok r ↔
    ∃ method headers, m.method? = some method ∧ e.requestHeaders = .ok headers ∧ r = m.request method headers := by
  rw [h.toRequest_eq]
  constructor
  · intro hr
    obtain ⟨method, hmethod, hr⟩ := bind_eq_ok_iff.1 hr
    obtain ⟨headers, hheaders, hr⟩ := bind_eq_ok_iff.1 hr
    exact ⟨method, headers, h.method_eq_ok_iff.1 hmethod, hheaders, (Except.ok.inj hr).symm⟩
  · rintro ⟨method, headers, hmethod, hheaders, rfl⟩
    rw [h.method_eq_ok_iff.2 hmethod, hheaders]
    rfl

theorem exists_requestHeaders_eq_ok (h : e.Reads strip m) : (∃ headers, e.requestHeaders = .ok headers) ↔
    headerSlots m.allFields.length ≤ maxHeaderSlots ∧
      ∀ h ∈ m.allFields, (HeaderName.ofText? h.1).isSome ∧ (HeaderValue.ofText? h.2).isSome := by
  have hlength : e.joinedHeaders.length = m.allFields.length := by
    rw [h.headers.length_eq, Message.groups, List.length_map]
  have hfields : (∃ fields, e.joinedHeaders.mapM headerField = .ok fields) ↔
      ∀ h ∈ m.allFields, (HeaderName.ofText? h.1).isSome ∧ (HeaderValue.ofText? h.2).isSome := by
    rw [exists_mapM_eq_ok]
    simp only [h.headers.mem_iff, Message.groups, List.forall_mem_map, Prod.exists, headerField_fieldGroup,
      Option.isSome_iff_exists, exists_and_left, exists_and_right]
  rw [← hfields, ← hlength, ← exists_and_left]
  constructor
  · rintro ⟨headers, hheaders⟩
    exact ⟨headers.fields, requestHeaders_eq_ok_iff.1 hheaders⟩
  · rintro ⟨fields, hfields⟩
    exact ⟨⟨fields⟩, requestHeaders_eq_ok_iff.2 hfields⟩

/-- There is a request from the event exactly if the message can be one. -/
theorem exists_toRequest_eq_ok (h : e.Reads strip m) : (∃ r, e.toRequest strip = .ok r) ↔ m.Readable := by
  constructor
  · rintro ⟨r, hr⟩
    obtain ⟨method, headers, hmethod, hheaders, -⟩ := h.toRequest_eq_ok_iff.1 hr
    obtain ⟨hroom, hfields⟩ := h.exists_requestHeaders_eq_ok.1 ⟨headers, hheaders⟩
    exact ⟨by rw [hmethod]; rfl, hroom, hfields⟩
  · rintro ⟨hmethod, hroom, hfields⟩
    obtain ⟨method, hmethod⟩ := Option.isSome_iff_exists.1 hmethod
    obtain ⟨headers, hheaders⟩ := h.exists_requestHeaders_eq_ok.2 ⟨hroom, hfields⟩
    exact ⟨_, h.toRequest_eq_ok_iff.2 ⟨method, headers, hmethod, hheaders, rfl⟩⟩

/-- A request from the event is the message. -/
theorem readAs (h : e.Reads strip m) (hr : e.toRequest strip = .ok r) : m.ReadAs r := by
  obtain ⟨method, headers, hmethod, hheaders, rfl⟩ := h.toRequest_eq_ok_iff.1 hr
  have hgroups : ∀ group, group ∈ e.joinedHeaders ↔ ∃ h ∈ m.allFields, fieldGroup h = group := by
    intro group
    rw [h.headers.mem_iff, Message.groups, List.mem_map]
  refine ⟨hmethod, rfl, ?_, length_getAll_of_requestHeaders hheaders, rfl, rfl, rfl, rfl⟩
  · intro name value
    constructor
    · intro hvalue
      obtain ⟨group, hgroup, hfield⟩ := exists_of_mem_getAll hheaders hvalue
      obtain ⟨field, hmem, rfl⟩ := (hgroups group).1 hgroup
      exact ⟨field, hmem, headerField_fieldGroup.1 hfield⟩
    · rintro ⟨field, hmem, hfield⟩
      have hgetAll := getAll_of_requestHeaders hheaders ((hgroups _).2 ⟨field, hmem, rfl⟩)
        (headerField_fieldGroup.2 hfield)
      rw [Message.request, hgetAll]
      exact List.mem_singleton_self value

/-- The order of the header fields makes no difference, but for the header for which a message is refused. -/
theorem agree (h : e.Reads strip m) (h' : e'.Reads strip' m) :
    AdaptAgree Request.Same (e.toRequest strip) (e'.toRequest strip') := by
  have hmethod : e.method = e'.method := by
    unfold Event.method
    rw [h.method, h'.method]
  rw [h.toRequest_eq, h'.toRequest_eq, hmethod]
  cases e'.method with
  | error failure => exact .refused failure
  | ok method =>
    refine (requestHeaders_agree (h.headers.trans h'.headers.symm)).bind fun headers headers' hsame => ?_
    exact .accepted ⟨rfl, rfl, hsame, rfl, rfl, rfl, rfl⟩

/-- Where the header fields are in the same order, there is no difference at all. -/
theorem toRequest_congr (h : e.Reads strip m) (h' : e'.Reads strip' m) (hheaders : e.joinedHeaders = e'.joinedHeaders) :
    e.toRequest strip = e'.toRequest strip' := by
  have hmethod : e.method = e'.method := by
    unfold Event.method
    rw [h.method, h'.method]
  rw [h.toRequest_eq, h'.toRequest_eq, hmethod, requestHeaders_eq, requestHeaders_eq, hheaders]

end Event.Reads

end CatalogGateway
