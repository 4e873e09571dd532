import CatalogGateway.Event.Adapt
import CatalogGateway.Proofs.Json.Records
import CatalogGateway.Proofs.Json.RoundTrip

/-!
# Events as payloads

An event is read back from its JSON form (`Event.ofPayload_toJson`): a member that it does not have is left out there,
and counts as absent where it is not found.  The text of the form can be read too, since the form is nested no deeper than
a context in an event (`Event.plain_toJson`).
-/

namespace CatalogGateway

open Json (lookup_present_self lookup_present_ne names_present decodeOption_of_ok decodeList_strings plain_present
  plain_strings plain_ofEntries)
open Json.Record.ReadsAs (optional optionalText withDefault)

theorem EventHttp.ofJson_toJson (h : EventHttp) : EventHttp.ofJson h.toJson = .ok h := by
  have hnames := ((names_present "method" Json.string h.method).append (names_present "path" Json.string h.path)).append
    (names_present "sourceIp" Json.string h.sourceIp)
  refine Json.Record.ReadsAs.decode (a := h) ?_ ?_ _
  · refine (((optionalText ?_).map EventHttp.mk).seq (optionalText ?_)).seq (optionalText ?_) <;>
      simp [List.lookup_append, lookup_present_self, lookup_present_ne]
  · rw [List.map_append, List.map_append]
    exact hnames.nodup (by decide)

theorem EventIdentity.ofJson_toJson (i : EventIdentity) : EventIdentity.ofJson i.toJson = .ok i := by
  refine Json.Record.ReadsAs.decode (a := i) ?_ ?_ _
  · exact (optionalText (lookup_present_self "sourceIp" Json.string i.sourceIp)).map EventIdentity.mk
  · exact (names_present _ _ _).nodup (by decide)

theorem EventContext.ofJson_toJson (c : EventContext) : EventContext.ofJson c.toJson = .ok c := by
  have hhttp : ∀ h, c.http = some h → Json.decodeOption EventHttp.ofJson (EventHttp.toJson h) = .ok (some h) :=
    fun h _ => decodeOption_of_ok nofun h.ofJson_toJson
  have hidentity : ∀ i, c.identity = some i →
      Json.decodeOption EventIdentity.ofJson (EventIdentity.toJson i) = .ok (some i) :=
    fun i _ => decodeOption_of_ok nofun i.ofJson_toJson
  refine Json.Record.ReadsAs.decode (a := c) ?_ ?_ _
  · refine (((((optionalText ?_).map EventContext.mk).seq (optionalText ?_)).seq (optionalText ?_)).seq
      (optional ?_ hhttp)).seq (optional ?_ hidentity) <;>
      simp [List.lookup_append, lookup_present_self, lookup_present_ne]
  · simp only [List.map_append]
    exact (((((names_present _ _ _).append (names_present _ _ _)).append (names_present _ _ _)).append
      (names_present _ _ _)).append (names_present _ _ _)).nodup (by decide)

theorem Event.ofJson_toJson (e : Event) : Event.ofJson e.toJson = .ok e := by
  have hheaders : ∀ l, e.headers = some l →
      Json.decodeOption (Json.decodeMembers Json.decodeText) (Json.ofEntries .string l) = .ok (some l) :=
    fun l _ => decodeOption_of_ok nofun (Json.decodeMembers_ofEntries fun _ _ => rfl)
  have hmulti : ∀ l, e.multiValueHeaders = some l →
      Json.decodeOption (Json.decodeMembers (Json.decodeList Json.decodeText)) (Json.ofEntries Json.strings l) =
        .ok (some l) :=
    fun l _ => decodeOption_of_ok nofun (Json.decodeMembers_ofEntries fun h _ => decodeList_strings h.2)
  have hcookies : ∀ l, e.cookies = some l →
      Json.decodeOption (Json.decodeList Json.decodeText) (Json.strings l) = .ok (some l) :=
    fun l _ => decodeOption_of_ok nofun (decodeList_strings l)
  have hquery : ∀ m, e.queryStringParameters = some m →
      Json.decodeOption (Json.decodeNameMap Json.decodeText) (Json.ofEntries .string m.entries) = .ok (some m) :=
    fun m _ => decodeOption_of_ok nofun (Json.decodeNameMap_ofEntries fun _ _ => rfl)
  have hmultiQuery : ∀ m, e.multiValueQueryStringParameters = some m →
      Json.decodeOption (Json.decodeNameMap (Json.decodeList Json.decodeText)) (Json.ofEntries Json.strings m.entries) =
        .ok (some m) :=
    fun m _ => decodeOption_of_ok nofun (Json.decodeNameMap_ofEntries fun h _ => decodeList_strings h.2)
  have hcontext : ∀ c, e.requestContext = some c →
      Json.decodeOption EventContext.ofJson (EventContext.toJson c) = .ok (some c) :=
    fun c _ => decodeOption_of_ok nofun c.ofJson_toJson
  refine Json.Record.ReadsAs.decode (a := e) ?_ ?_ _
  · refine ((((((((((((optionalText ?_).map Event.mk).seq (optionalText ?_)).seq (optionalText ?_)).seq
      (optionalText ?_)).seq (optional ?_ hheaders)).seq (optional ?_ hmulti)).seq (optional ?_ hcookies)).seq
      (optional ?_ hquery)).seq (optional ?_ hmultiQuery)).seq (optionalText ?_)).seq
      (withDefault (v := .bool e.isBase64Encoded) ?_ rfl)).seq (optional ?_ hcontext) <;>
      simp [List.lookup_append, List.lookup_cons, lookup_present_self, lookup_present_ne]
  · have hsub := (((((((((((names_present "version" Json.string e.version).append
      (names_present "httpMethod" Json.string e.httpMethod)).append (names_present "path" Json.string e.path)).append
      (names_present "rawPath" Json.string e.rawPath)).append
      (names_present "headers" (Json.ofEntries .string) e.headers)).append
      (names_present "multiValueHeaders" (Json.ofEntries Json.strings) e.multiValueHeaders)).append
      (names_present "cookies" Json.strings e.cookies)).append
      (names_present "queryStringParameters" (fun m => Json.ofEntries .string m.entries) e.queryStringParameters)).append
      (names_present "multiValueQueryStringParameters" (fun m => Json.ofEntries Json.strings m.entries)
        e.multiValueQueryStringParameters)).append (names_present "body" Json.string e.body)).append
      (List.Sublist.refl ["isBase64Encoded"])).append
      (names_present "requestContext" EventContext.toJson e.requestContext)
    simp only [List.map_append]
    exact hsub.nodup (by decide)

theorem Event.ofPayload_eq_ok_iff {payload : Json} {e : Event} : ofPayload payload = .ok e ↔ ofJson payload = .ok e := by
  unfold ofPayload
  cases ofJson payload <;> simp

/-- What an event is read as does not depend on whether it comes as a payload. -/
theorem Event.ofPayload_toJson (e : Event) : Event.ofPayload e.toJson = .ok e :=
  ofPayload_eq_ok_iff.2 e.ofJson_toJson

/-! ### The text of an event -/

theorem EventHttp.plain_toJson (h : EventHttp) (depth : Nat) : h.toJson.Plain (depth + 1) := by
  refine .object ?_
  simp only [List.forall_mem_append]
  exact ⟨⟨plain_present .string _ _, plain_present .string _ _⟩, plain_present .string _ _⟩

theorem EventIdentity.plain_toJson (i : EventIdentity) (depth : Nat) : i.toJson.Plain (depth + 1) :=
  .object (plain_present .string _ _)

theorem EventContext.plain_toJson (c : EventContext) (depth : Nat) : c.toJson.Plain (depth + 2) := by
  have htext : ∀ name (o : Option String), ∀ m ∈ Json.present name .string o, m.2.Plain (depth + 1) :=
    plain_present .string
  refine .object ?_
  simp only [List.forall_mem_append]
  exact ⟨⟨⟨⟨htext _ _, htext _ _⟩, htext _ _⟩, plain_present (fun h => h.plain_toJson depth) _ _⟩,
    plain_present (fun i => i.plain_toJson depth) _ _⟩

theorem Event.plain_toJson (e : Event) : e.toJson.Plain Json.maxDepth := by
  have htext : ∀ name (o : Option String), ∀ m ∈ Json.present name .string o, m.2.Plain 126 := plain_present .string
  have hflag : ∀ m ∈ [("isBase64Encoded", Json.bool e.isBase64Encoded)], m.2.Plain 126 := by
    intro m hm
    rw [List.mem_singleton.1 hm]
    exact .bool _
  refine @Json.Plain.object 126 _ ?_
  simp only [List.forall_mem_append]
  exact ⟨⟨⟨⟨⟨⟨⟨⟨⟨⟨⟨htext _ _, htext _ _⟩, htext _ _⟩, htext _ _⟩,
    plain_present (plain_ofEntries .string) _ _⟩, plain_present (plain_ofEntries plain_strings) _ _⟩,
    plain_present plain_strings _ _⟩, plain_present (fun _ => plain_ofEntries .string _) _ _⟩,
    plain_present (fun _ => plain_ofEntries plain_strings _) _ _⟩, htext _ _⟩, hflag⟩,
    plain_present (fun c => c.plain_toJson 124) _ _⟩

end CatalogGateway
