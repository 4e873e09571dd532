import CatalogGateway.Proofs.Encoding.Percent
import CatalogGateway.Proofs.Event.Message

/-!
# One message in two formats

An event carries a message in the format 1.0 (`Event.CarriesV1`) or in the format 2.0 (`Event.CarriesV2`), each with
some freedom.  Both are read as the message (`Event.CarriesV1.reads`, `Event.CarriesV2.reads`), so they give the same
request, or none (`formats_agree`).
-/

namespace CatalogGateway

/-! ### The members of an event -/

namespace Event

/-- The text is a percent-encoding of the path, but for the slash at its front. -/
def EncodesPath (path text : String) : Prop :=
  ∃ p t, path.toList = '/' :: p ∧ text.toList = '/' :: t ∧ Percent.Encodes p t

/-- The event gives the path percent-encoded, behind a stage that is taken off it or without one. -/
inductive CarriesPath (e : Event) (strip : Bool) (path : String) : Prop where
  | bare {text : String} (henc : EncodesPath path text) (hraw : e.rawPath = some text)
    (hstage : strip = false ∨ ∀ stage, e.requestContext.bind (·.stage) = some stage → stage = "" ∨ stage = "$default") :
    CarriesPath e strip path
  | staged {text stage : String} (henc : EncodesPath path text) (hraw : e.rawPath = some ("/" ++ stage ++ text))
    (hstage : e.requestContext.bind (·.stage) = some stage) (hne : stage ≠ "") (hdefault : stage ≠ "$default")
    (hstrip : strip = true) : CarriesPath e strip path

/-- The event gives the query parameters with all their values, which is one value for each, or else with one. -/
def CarriesQuery (e : Event) (query : NameMap String) : Prop :=
  e.multiValueQueryStringParameters = some (query.map ([·])) ∨
    e.multiValueQueryStringParameters = none ∧ e.queryStringParameters.getD ∅ = query

/-- The event gives the body as it is, if it is text, or in base64. -/
inductive CarriesBody (e : Event) : Option Bytes → Prop where
  | absent (hbody : e.body = none) : CarriesBody e none
  | plain {text : String} (hflag : e.isBase64Encoded = false) (hbody : e.body = some text) :
    CarriesBody e (some (Text.Utf8.encode text))
  | coded {bytes : Bytes} (hflag : e.isBase64Encoded = true) (hbody : e.body = some (Base64.encodeText bytes)) :
    CarriesBody e (some bytes)

/-- The event carries the message in the format 1.0: the path is decoded, and the cookies are one more header field,
anywhere among the others. -/
structure CarriesV1 (e : Event) (m : Message) : Prop where
  version : e.version ≠ some "2.0"
  method : e.httpMethod = some m.method
  path : e.path = some m.path
  rawPath : e.rawPath = none
  headers : ∃ name fields, Text.lowercase name = HeaderName.cookie.text ∧ e.Lists fields ∧
    fields.Perm (m.fields ++ m.cookieField name)
  cookies : e.cookies.getD [] = []
  query : e.CarriesQuery m.query
  body : e.CarriesBody m.body
  context : ∃ c, e.requestContext = some c ∧ c.requestId = some m.requestId ∧ c.http = none ∧
    c.identity.bind (·.sourceIp) = m.sourceIp

/-- The event carries the message in the format 2.0, for a reader that takes stages off paths or not. -/
structure CarriesV2 (e : Event) (strip : Bool) (m : Message) : Prop where
  version : e.version = some "2.0"
  path : e.CarriesPath strip m.path
  headers : ∃ fields, e.Lists fields ∧ fields.Perm m.fields
  cookies : e.cookies.getD [] = m.cookies
  query : e.CarriesQuery m.query
  body : e.CarriesBody m.body
  context : ∃ c http, e.requestContext = some c ∧ c.requestId = some m.requestId ∧ c.http = some http ∧
    http.method = some m.method ∧ http.sourceIp = m.sourceIp ∧ c.identity = none

variable {e : Event} {m : Message} {strip : Bool}

/-! ### What is read from them -/

theorem query_of_carries {query : NameMap String} (h : e.CarriesQuery query) : e.query = query.map ([·]) := by
  unfold Event.query
  rcases h with h | ⟨hmulti, hsingle⟩
  · rw [h]
  · rw [hmulti, hsingle]

theorem requestBody_of_carries {body : Option Bytes} (h : e.CarriesBody body) : e.requestBody = .ok (body.getD []) := by
  unfold requestBody
  cases h with
  | absent hbody => rw [hbody]; rfl
  | plain hflag hbody => rw [hbody, hflag]; rfl
  | coded hflag hbody =>
    rw [hbody, hflag]
    dsimp only
    rw [if_pos rfl, Base64.decode_encodeText]
    rfl

theorem decode?_of_encodesPath {path text : String} (h : EncodesPath path text) : Percent.decode? text = some path := by
  obtain ⟨p, t, hpath, htext, henc⟩ := h
  refine Percent.decode?_of_encodes ?_
  rw [hpath, htext]
  exact .kept (by decide) henc

theorem head?_of_encodesPath {path text : String} (h : EncodesPath path text) : text.toList.head? = some '/' := by
  obtain ⟨p, t, -, htext, -⟩ := h
  rw [htext, List.head?_cons]

/-- A stage in front of a path is taken off it. -/
theorem stripStage_append {stage path : String} (hne : stage ≠ "") (hdefault : stage ≠ "$default")
    (hpath : path.toList.head? = some '/') : stripStage stage ("/" ++ stage ++ path) = path := by
  obtain ⟨rest, hrest⟩ := List.head?_eq_some_iff.1 hpath
  have happend : ('/' :: stage.toList).isPrefixOf? ("/" ++ stage ++ path).toList = some ('/' :: rest) := by
    rw [List.isPrefixOf?_eq_some_iff_append_eq, ← hrest, String.toList_append, String.toList_append]
    rfl
  unfold stripStage
  rw [if_neg (not_or.2 ⟨hne, hdefault⟩), happend]
  show String.ofList ('/' :: rest) = path
  rw [← hrest, String.ofList_toList]

/-- Without a stage to take off, the path is left as it is. -/
theorem stripStage_of_unnamed {stage : String} (h : stage = "" ∨ stage = "$default") (path : String) :
    stripStage stage path = path := by
  unfold stripStage
  rw [if_pos h]

/-- In other formats than 2.0 the path stays as it is. -/
theorem requestPath_of_not_version2 (hversion : e.version ≠ some "2.0") {path : String} (hpath : e.pathText? = some path)
    (hhead : path.toList.head? = some '/') : e.requestPath strip = .ok path := by
  have hv2 : e.isVersion2 = false := by simpa [isVersion2] using hversion
  have hstage : e.stageToStrip? strip = none := by simp [stageToStrip?, hv2]
  rw [requestPath_of_head? hpath hhead, hv2, withoutStage, hstage]
  rfl

/-- In the format 2.0 the stage is to be taken off, if there is one. -/
theorem stageToStrip?_of_version2 (hversion : e.version = some "2.0") {raw : String} (hraw : e.rawPath = some raw) :
    e.stageToStrip? strip = if strip then e.requestContext.bind (·.stage) else none := by
  simp [stageToStrip?, isVersion2, hversion, hraw]

/-- In the format 2.0, what is left without the stage is decoded. -/
theorem requestPath_eq_ok_iff_of_version2 (hversion : e.version = some "2.0") {raw path : String}
    (hraw : e.rawPath = some raw) (hhead : raw.toList.head? = some '/') : e.requestPath strip = .ok path ↔
      Percent.decode? (e.withoutStage strip raw) = some path := by
  have htext : e.pathText? = some raw := by simp [pathText?, hraw]
  rw [requestPath_of_head? htext hhead, if_pos (isVersion2_iff.2 hversion)]
  cases Percent.decode? (e.withoutStage strip raw) <;> simp

theorem requestPath_of_carries (hversion : e.version = some "2.0") {path : String} (h : e.CarriesPath strip path) :
    e.requestPath strip = .ok path := by
  cases h with
  | @bare text henc hraw hstage =>
    have hleft : e.withoutStage strip text = text := by
      rw [withoutStage, stageToStrip?_of_version2 hversion hraw]
      rcases hstage with rfl | hstage
      · rfl
      · cases hs : e.requestContext.bind (·.stage) with
        | none => cases strip <;> rfl
        | some stage =>
          have hunnamed := stripStage_of_unnamed (hstage stage hs) text
          cases strip with
          | false => rfl
          | true => exact hunnamed
    rw [requestPath_eq_ok_iff_of_version2 hversion hraw (head?_of_encodesPath henc), hleft]
    exact decode?_of_encodesPath henc
  | @staged text stage henc hraw hstage hne hdefault hstrip =>
    subst hstrip
    have hleft : e.withoutStage true ("/" ++ stage ++ text) = text := by
      rw [withoutStage, stageToStrip?_of_version2 hversion hraw, if_pos rfl, hstage]
      exact stripStage_append hne hdefault (head?_of_encodesPath henc)
    rw [requestPath_eq_ok_iff_of_version2 hversion hraw (by simp), hleft]
    exact decode?_of_encodesPath henc

/-! ### The two formats -/

/-- Groups in the order of the fields are the groups of the message in some order. -/
private theorem perm_groups {name : String} (hname : Text.lowercase name = HeaderName.cookie.text)
    {fields : List (String × String)} (hperm : fields.Perm (m.fields ++ m.cookieField name)) :
    (fields.map fieldGroup).Perm m.groups := by
  rw [m.groups_eq, ← m.map_cookieField hname, ← List.map_append]
  exact hperm.map fieldGroup

theorem CarriesV1.joinedHeaders_eq (h : e.CarriesV1 m) {fields : List (String × String)} (hfields : e.Lists fields) :
    e.joinedHeaders = fields.map fieldGroup ∧ e.joinedHeaders.Perm m.groups := by
  obtain ⟨name, fields', hname, hlists, hperm⟩ := h.headers
  obtain rfl := hfields.unique hlists
  have hgroups := perm_groups hname hperm
  have hnames : (fieldNames fields).Nodup := by
    rw [← map_fst_fieldGroup, (hgroups.map (·.1)).nodup_iff]
    exact m.nodup_groups
  have hjoined : e.joinedHeaders = fields.map fieldGroup := by
    rw [joinedHeaders_of_lists hfields hnames (.inl h.cookies), h.cookies]
    exact List.append_nil _
  rw [hjoined]
  exact ⟨rfl, hgroups⟩

theorem CarriesV2.joinedHeaders_eq (h : e.CarriesV2 strip m) {fields : List (String × String)}
    (hfields : e.Lists fields) :
    e.joinedHeaders = fields.map fieldGroup ++ (cookieGroup m.cookies).map joined ∧ e.joinedHeaders.Perm m.groups := by
  obtain ⟨fields', hlists, hperm⟩ := h.headers
  obtain rfl := hfields.unique hlists
  have hnames : (fieldNames fields).Perm (fieldNames m.fields) := hperm.map _
  have hjoined := joinedHeaders_of_lists hfields (hnames.nodup_iff.2 m.nodup_fieldNames)
    (.inr fun hmem => m.cookie_not_mem (hnames.mem_iff.1 hmem))
  rw [h.cookies] at hjoined
  rw [hjoined, m.groups_eq]
  exact ⟨rfl, (hperm.map fieldGroup).append_right _⟩

theorem CarriesV1.requestPath_eq (h : e.CarriesV1 m) : e.requestPath strip = .ok m.path :=
  requestPath_of_not_version2 h.version (by simp [pathText?, h.rawPath, h.path]) m.rooted

/-- An event in the format 1.0 is read as the message, whether or not stages are taken off paths. -/
theorem CarriesV1.reads (h : e.CarriesV1 m) (strip : Bool) : e.Reads strip m := by
  obtain ⟨c, hc, hid, hhttp, hip⟩ := h.context
  obtain ⟨-, fields, -, hlists, -⟩ := h.headers
  constructor
  case method => simp [methodText?, hc, hhttp, h.method]
  case path => exact h.requestPath_eq
  case headers => exact (h.joinedHeaders_eq hlists).2
  case query => exact query_of_carries h.query
  case body => exact requestBody_of_carries h.body
  case requestId => simp [Event.requestId, hc, hid]
  case sourceIp => simp [sourceIp?, hc, hhttp, hip]

/-- An event in the format 2.0 is read as the message. -/
theorem CarriesV2.reads (h : e.CarriesV2 strip m) : e.Reads strip m := by
  obtain ⟨c, http, hc, hid, hhttp, hmethod, hip, hidentity⟩ := h.context
  obtain ⟨fields, hlists, -⟩ := h.headers
  constructor
  case method => simp [methodText?, hc, hhttp, hmethod]
  case path => exact requestPath_of_carries h.version h.path
  case headers => exact (h.joinedHeaders_eq hlists).2
  case query => exact query_of_carries h.query
  case body => exact requestBody_of_carries h.body
  case requestId => simp [Event.requestId, hc, hid]
  case sourceIp => simp [sourceIp?, hc, hhttp, hip, hidentity]

end Event

/-- Two events that carry a message, one in each format, give the same request, which is the message, or neither gives
one.  They give one exactly if the message can be a request, and if not, they are refused for the same reason, up to the
header that is named.  Where they list the same fields in the same order and the cookies last, there is no difference at
all. -/
theorem formats_agree {m : Message} {e e' : Event} {strip' : Bool} (h : e.CarriesV1 m) (h' : e'.CarriesV2 strip' m)
    (strip : Bool) :
    AdaptAgree Request.Same (e.toRequest strip) (e'.toRequest strip') ∧
    ((∃ r, e.toRequest strip = .ok r) ↔ m.Readable) ∧ ((∃ r, e'.toRequest strip' = .ok r) ↔ m.Readable) ∧
    (∀ r, e.toRequest strip = .ok r ∨ e'.toRequest strip' = .ok r → m.ReadAs r) ∧
    ∀ fields name, Text.lowercase name = HeaderName.cookie.text → e'.Lists fields →
      e.Lists (fields ++ m.cookieField name) → e.toRequest strip = e'.toRequest strip' := by
  have hreads := h.reads strip
  have hreads' := h'.reads
  refine ⟨hreads.agree hreads', hreads.exists_toRequest_eq_ok, hreads'.exists_toRequest_eq_ok, ?_, ?_⟩
  · rintro r (hr | hr)
    · exact hreads.readAs hr
    · exact hreads'.readAs hr
  · intro fields name hname hfields' hfields
    refine hreads.toRequest_congr hreads' ?_
    rw [(h.joinedHeaders_eq hfields).1, (h'.joinedHeaders_eq hfields').1, List.map_append, m.map_cookieField hname]

namespace Sample

/-- A message with a blank in its path, two cookies and a body that is no text. -/
def message : Message :=
  { method := "post", path := "/a b", rooted := by decide, fields := [("Accept", "text/html")],
    distinct := by decide, cookies := ["a=1", "b=2"], body := some [255], requestId := "r", sourceIp := some "::1" }

/-- The message in the format 1.0, with its header fields mirrored. -/
def messageV1 : Event :=
  { version := some "1.0", httpMethod := some "post", path := some "/a b",
    headers := some [("Accept", "text/html"), ("Cookie", "a=1; b=2")],
    multiValueHeaders := some [("Accept", ["text/html"]), ("Cookie", ["a=1; b=2"])],
    body := some "/w==", isBase64Encoded := true,
    requestContext := some { requestId := some "r", stage := some "prod", identity := some ⟨some "::1"⟩ } }

/-- The message in the format 2.0, behind a stage. -/
def messageV2 : Event :=
  { version := some "2.0", rawPath := some "/prod/a%20b", headers := some [("Accept", "text/html")],
    cookies := some ["a=1", "b=2"], body := some "/w==", isBase64Encoded := true,
    requestContext := some { requestId := some "r", stage := some "prod", http := some ⟨some "post", none, some "::1"⟩ } }

end Sample

/-- A message that is read from both events in the same way. -/
theorem formats_agree_message :
    Sample.messageV1.CarriesV1 Sample.message ∧ Sample.messageV2.CarriesV2 true Sample.message ∧
      Sample.messageV1.toRequest true = Sample.messageV2.toRequest true ∧
      ∃ r, Sample.messageV1.toRequest true = .ok r := by
  have hlists : Sample.messageV1.Lists (Sample.message.fields ++ Sample.message.cookieField "Cookie") :=
    ⟨[("Accept", "text/html"), ("Cookie", "a=1; b=2")], rfl, by decide⟩
  have hlists' : Sample.messageV2.Lists Sample.message.fields := ⟨[], rfl, by decide⟩
  have hbody : "/w==" = Base64.encodeText [255] := by decide
  have henc : Percent.Encodes [' ', 'b'] (['%', '2', '0'] ++ ['b']) :=
    .escaped (.cons (h := 2) (l := 0) rfl rfl rfl .nil) (.kept (by decide) .nil)
  have hpath : Event.EncodesPath "/a b" "/a%20b" :=
    ⟨['a', ' ', 'b'], ['a', '%', '2', '0', 'b'], by decide, by decide, .kept (by decide) henc⟩
  have h : Sample.messageV1.CarriesV1 Sample.message :=
    { version := by decide
      method := rfl
      path := rfl
      rawPath := rfl
      headers := ⟨"Cookie", _, by decide, hlists, .refl _⟩
      cookies := rfl
      query := .inr ⟨rfl, rfl⟩
      body := .coded rfl (congrArg some hbody)
      context := ⟨_, rfl, rfl, rfl, rfl⟩ }
  have h' : Sample.messageV2.CarriesV2 true Sample.message :=
    { version := rfl
      path := .staged hpath (by decide) rfl (by decide) (by decide) rfl
      headers := ⟨_, hlists', .refl _⟩
      cookies := rfl
      query := .inr ⟨rfl, rfl⟩
      body := .coded rfl (congrArg some hbody)
      context := ⟨_, _, rfl, rfl, rfl, rfl, rfl, rfl⟩ }
  have hreadable : Sample.message.Readable := ⟨by decide +kernel, by decide +kernel, by decide +kernel⟩
  obtain ⟨-, haccepted, -, -, hsame⟩ := formats_agree h h' true
  exact ⟨h, h', hsame _ "Cookie" (by decide) hlists' hlists, haccepted.2 hreadable⟩

end CatalogGateway
