import CatalogGateway.Envelope
import CatalogGateway.Proofs.Json.RoundTrip
import CatalogGateway.Proofs.Lists
import CatalogGateway.Proofs.NameMap
import CatalogGateway.Proofs.Text.Utf8
import Mathlib.Data.List.Nodup

/-!
# Envelopes

The headers of an envelope are those of the response, name by name (`Envelope.get?_headers`).  A response with a JSON
document for a body and a textual content type arrives as that document (`Envelope.document_of_body`).
-/

namespace CatalogGateway

/-- A value reads as the text that its octets spell, if they are plain. -/
theorem HeaderValue.text?_eq_some_iff {v : HeaderValue} {s : String} :
    v.text? = some s ↔ v.bytes.all isPlainByte = true ∧ v.bytes = Text.Utf8.encode s := by
  unfold text?
  split
  · rename_i hplain
    rw [and_iff_right hplain]
    constructor
    · exact fun h => (Text.Utf8.encode_of_decode? h).symm
    · intro h
      rw [h, Text.Utf8.decode?_encode]
  · rename_i hplain
    exact ⟨nofun, fun h => absurd h.1 hplain⟩

theorem HeaderValue.text?_json : json.text? = some "application/json" := text?_eq_some_iff.2 ⟨by decide, rfl⟩

theorem HeaderValue.text?_problemJson : problemJson.text? = some "application/problem+json" :=
  text?_eq_some_iff.2 ⟨by decide, rfl⟩

theorem Headers.mem_names {h : Headers} {name : HeaderName} : name ∈ h.names ↔ h.getAll name ≠ [] := by
  unfold names getAll
  rw [List.mem_eraseDups, ne_eq, List.map_eq_nil_iff, List.filter_eq_nil_iff]
  simp only [List.mem_map, decide_eq_true_eq, not_forall, not_not, exists_prop]

namespace Envelope

private theorem lookup_texts (f : HeaderName → String) (names : List HeaderName) (name : HeaderName) :
    (names.map fun n => (n.text, f n)).lookup name.text = if name ∈ names then some (f name) else none := by
  induction names with
  | nil => rfl
  | cons n rest ih =>
    rw [List.map_cons, List.lookup_cons, ih]
    by_cases hn : name = n
    · simp [hn]
    · have htext : name.text ≠ n.text := fun heq => hn (HeaderName.ext heq)
      rw [beq_eq_false_iff_ne.2 htext]
      simp [hn]

/-- The headers of the envelope are those of the response but for the cookies. -/
theorem get?_ofResponse (r : Response) (key : String) : (ofResponse r).headers.get? key =
    ((r.headers.names.filter (· ≠ .setCookie)).map fun n =>
      (n.text, ", ".intercalate (headerTexts r.headers n))).lookup key := by
  have hnames : (r.headers.names.filter (· ≠ .setCookie)).Nodup := (nodup_eraseDups _).filter _
  refine NameMap.get?_ofList ?_ key
  rw [List.map_map]
  exact hnames.map fun m n heq => HeaderName.ext heq

/-- The value of a header in the envelope: all its values in the response, put together. -/
theorem get?_headers (r : Response) {name : HeaderName} (hname : name ≠ .setCookie) :
    (ofResponse r).headers.get? name.text =
      if r.headers.getAll name = [] then none else some (", ".intercalate (headerTexts r.headers name)) := by
  rw [get?_ofResponse, lookup_texts]
  by_cases hnone : r.headers.getAll name = []
  · simp [Headers.mem_names, hnone]
  · simp [Headers.mem_names, hnone, hname]

/-- The names of the headers in the envelope. -/
theorem mem_keys_headers (r : Response) (key : String) : key ∈ (ofResponse r).headers.keys ↔
    ∃ n ∈ r.headers.names, n ≠ .setCookie ∧ n.text = key := by
  have hkeys : key ∈ (ofResponse r).headers.keys ↔ (ofResponse r).headers.get? key ≠ none := mem_map_fst_iff
  rw [hkeys, get?_ofResponse, ← mem_map_fst_iff]
  simp [and_assoc]

/-- The envelope carries a JSON document as it is. -/
structure Document (e : Envelope) (contentType : String) (v : Json) : Prop where
  contentType : e.headers.get? HeaderName.contentType.text = some contentType
  plain : e.isBase64Encoded = false
  cookies : e.cookies = []
  body : e.body = v.text

theorem Document.parse {e : Envelope} {contentType : String} {v : Json} (h : e.Document contentType v)
    (hv : v.Plain Json.maxDepth) : Json.parse? e.body = some v := by
  rw [h.body, Json.parse?_text hv]

private theorem bytes_ne_nil {v : Json} (hv : v.Plain Json.maxDepth) : v.bytes ≠ [] := by
  obtain ⟨c, cs, hrender, -, -⟩ := hv.exists_render_eq_cons
  intro hempty
  have htext : Text.Utf8.encode v.text = Text.Utf8.encode "" := hempty
  have hnil := congrArg String.toList (Text.Utf8.encode_injective htext)
  rw [Json.text, hrender, String.toList_ofList] at hnil
  cases hnil

private theorem encodeBody_bytes {v : Json} (hv : v.Plain Json.maxDepth) : encodeBody true v.bytes = (v.text, false) := by
  have hdecode : Text.Utf8.decode? v.bytes = some v.text := Text.Utf8.decode?_encode _
  unfold encodeBody
  rw [if_neg (bytes_ne_nil hv), hdecode]

/-- A response with a JSON document under a textual content type. -/
theorem document_of_body {r : Response} {type : HeaderValue} {contentType : String} {v : Json}
    (htype : r.headers.getAll .contentType = [type]) (htext : type.text? = some contentType)
    (htextual : isTextual contentType = true) (hcookies : r.headers.getAll .setCookie = []) (hbody : r.body = v.bytes)
    (hv : v.Plain Json.maxDepth) : (ofResponse r).Document contentType v := by
  obtain ⟨-, hbytes⟩ := HeaderValue.text?_eq_some_iff.1 htext
  have hcontent : r.contentType? = some contentType := by
    rw [Response.contentType?, Headers.get?, htype]
    exact htext
  have hencoded : encodeBody (r.contentType?.any isTextual) r.body = (v.text, false) := by
    rw [hcontent, Option.any_some, htextual, hbody, encodeBody_bytes hv]
  constructor
  case contentType =>
    have hne : HeaderName.contentType ≠ HeaderName.setCookie := by decide
    rw [get?_headers r hne, htype, if_neg (List.cons_ne_nil _ _), headerTexts, htype, List.map_singleton, hbytes,
      Text.Utf8.decodeLenient_encode, String.intercalate_singleton]
  case plain => exact congrArg Prod.snd hencoded
  case cookies =>
    show headerTexts r.headers .setCookie = []
    rw [headerTexts, hcookies, List.map_nil]
  case body => exact congrArg Prod.fst hencoded

theorem document_json {v : Json} (hv : v.Plain Json.maxDepth) (status : Status) :
    (ofResponse (.json v status)).Document "application/json" v := by
  refine document_of_body rfl HeaderValue.text?_json (by decide +kernel) rfl ?_ hv
  rw [Response.json, Response.withBody]

/-- The envelope answers a request with a value: its body is a JSON document that is read as the value. -/
structure Delivers {α : Type} (e : Envelope) (decode : Json.Decoder α) (a : α) : Prop where
  status : e.statusCode = 200
  contentType : e.headers.get? "content-type" = some "application/json"
  plain : e.isBase64Encoded = false
  cookies : e.cookies = []
  body : ∃ v, Json.parse? e.body = some v ∧ decode v = .ok a

theorem Delivers.unique {α : Type} {e : Envelope} {decode : Json.Decoder α} {a b : α} (ha : e.Delivers decode a)
    (hb : e.Delivers decode b) : a = b := by
  obtain ⟨v, hv, hdecode⟩ := ha.body
  obtain ⟨v', hv', hdecode'⟩ := hb.body
  rw [hv] at hv'
  obtain rfl := Option.some.inj hv'
  rw [hdecode] at hdecode'
  exact Except.ok.inj hdecode'

theorem delivers_json {α : Type} {decode : Json.Decoder α} {a : α} {v : Json} (hv : v.Plain Json.maxDepth)
    (hdecode : decode v = .ok a) : (ofResponse (.json v)).Delivers decode a := by
  have hdocument := document_json hv .ok
  exact ⟨rfl, hdocument.contentType, hdocument.plain, hdocument.cookies, ⟨v, hdocument.parse hv, hdecode⟩⟩

end Envelope

end CatalogGateway
