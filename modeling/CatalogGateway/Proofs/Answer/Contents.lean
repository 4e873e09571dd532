import CatalogGateway.Proofs.Answer.Envelope
import CatalogGateway.Proofs.Encoding.Base64
import CatalogGateway.Proofs.Event.Message
import Mathlib.Data.List.TakeWhile

/-!
# What an envelope holds

An envelope has everything of the response that it was made from (`envelope_keeps_response`).  Its body is the body of the
response, as it is or in base64, and the flag says which: a body goes as it is if it is a text and the response says so
(`Response.notText_iff`).  Every other header is there once, with all its values.
-/

namespace CatalogGateway

/-! ### Content types of texts -/

/-- The media types of texts. -/
inductive TextType : String → Prop where
  | text (subtype : String) : TextType ("text/" ++ subtype)
  | json (name : String) : TextType (name ++ "+json")
  | xml (name : String) : TextType (name ++ "+xml")
  | listed {type : String} (h : type ∈ ["application/json", "application/xml", "application/javascript",
    "application/x-www-form-urlencoded"]) : TextType type

/-- The media type of a content type, which stands before its parameters, is one of texts in any letter case. -/
def NamesText (contentType : String) : Prop :=
  ∃ type parameters, contentType = type ++ parameters ∧ ';' ∉ type.toList ∧
    (parameters = "" ∨ parameters.toList.head? = some ';') ∧ TextType (Text.lowercase (Text.trim type))

private theorem isPrefixOf_iff {start s : String} :
    start.toList.isPrefixOf s.toList = true ↔ ∃ rest, s = start ++ rest := by
  rw [List.isPrefixOf_iff_prefix]
  constructor
  · rintro ⟨cs, hcs⟩
    exact ⟨String.ofList cs, by rw [← String.toList_inj, String.toList_append, String.toList_ofList, hcs]⟩
  · rintro ⟨rest, rfl⟩
    exact ⟨rest.toList, String.toList_append.symm⟩

private theorem isSuffixOf_iff {ending s : String} :
    ending.toList.isSuffixOf s.toList = true ↔ ∃ rest, s = rest ++ ending := by
  rw [List.isSuffixOf_iff_suffix]
  constructor
  · rintro ⟨cs, hcs⟩
    exact ⟨String.ofList cs, by rw [← String.toList_inj, String.toList_append, String.toList_ofList, hcs]⟩
  · rintro ⟨rest, rfl⟩
    exact ⟨rest.toList, String.toList_append.symm⟩

namespace Envelope

theorem isTextual_iff_textType (contentType : String) :
    isTextual contentType = true ↔ TextType (mediaType contentType) := by
  unfold isTextual
  dsimp only
  rw [Bool.or_eq_true, Bool.or_eq_true, Bool.or_eq_true, isPrefixOf_iff, isSuffixOf_iff, isSuffixOf_iff,
    List.contains_iff_mem]
  constructor
  · rintro (((⟨subtype, h⟩ | ⟨name, h⟩) | ⟨name, h⟩) | h)
    · exact h ▸ .text subtype
    · exact h ▸ .json name
    · exact h ▸ .xml name
    · exact .listed h
  · generalize mediaType contentType = type
    rintro (⟨subtype⟩ | ⟨name⟩ | ⟨name⟩ | h)
    · exact .inl (.inl (.inl ⟨subtype, rfl⟩))
    · exact .inl (.inl (.inr ⟨name, rfl⟩))
    · exact .inl (.inr ⟨name, rfl⟩)
    · exact .inr h

/-- What stands before the parameters is what stands before the first semicolon. -/
theorem isTextual_iff {contentType : String} : isTextual contentType = true ↔ NamesText contentType := by
  rw [isTextual_iff_textType]
  constructor
  · intro h
    refine ⟨String.ofList (contentType.toList.takeWhile (· ≠ ';')),
      String.ofList (contentType.toList.dropWhile (· ≠ ';')), ?_, ?_, ?_, h⟩
    · rw [← String.ofList_append, List.takeWhile_append_dropWhile, String.ofList_toList]
    · rw [String.toList_ofList]
      intro hmem
      have hne := List.mem_takeWhile_imp (p := (· ≠ ';')) hmem
      exact of_decide_eq_true hne rfl
    · rw [String.toList_ofList]
      have hhead := List.head?_dropWhile_not (· ≠ ';') contentType.toList
      cases hrest : contentType.toList.dropWhile (· ≠ ';') with
      | nil => exact .inl rfl
      | cons c rest =>
        rw [hrest, List.head?_cons] at hhead
        exact .inr (by simpa using hhead)
  · rintro ⟨type, parameters, rfl, htype, hparameters, h⟩
    have hbefore : ∀ c ∈ type.toList, decide (c ≠ ';') = true := by
      intro c hc
      exact decide_eq_true fun heq => htype (heq ▸ hc)
    have hafter : parameters.toList.takeWhile (· ≠ ';') = [] := by
      rcases hparameters with rfl | hhead
      · rfl
      · obtain ⟨rest, hrest⟩ := List.head?_eq_some_iff.1 hhead
        rw [hrest]
        rfl
    rwa [mediaType, String.toList_append, List.takeWhile_append_of_pos hbefore, hafter, List.append_nil,
      String.ofList_toList]

example : isTextual "Application/Problem+JSON ; charset=utf-8" = true := by decide +kernel

end Envelope

/-! ### What a response says of its body -/

/-- The response does not say that its body is a text: the first of its content types is missing, or has octets other
than tabs, blanks and visible characters of ASCII, or is none of texts. -/
inductive Response.NotText (r : Response) : Prop where
  | missing (h : r.headers.getAll .contentType = [])
  | unreadable {value : HeaderValue} (h : (r.headers.getAll .contentType).head? = some value) {b : UInt8}
    (hmem : b ∈ value.bytes) (hout : ¬ (b = 9 ∨ 32 ≤ b ∧ b ≤ 126))
  | otherType {value : HeaderValue} (h : (r.headers.getAll .contentType).head? = some value) {contentType : String}
    (hbytes : value.bytes = Text.Utf8.encode contentType) (htype : ¬ NamesText contentType)

theorem isPlainByte_iff {b : UInt8} : isPlainByte b = true ↔ b = 9 ∨ 32 ≤ b ∧ b ≤ 126 := by
  simp only [isPlainByte, Bool.or_eq_true, beq_iff_eq, Bool.and_eq_true, decide_eq_true_eq]
  exact or_congr_right (and_congr_right fun _ => Nat.lt_succ_iff)

/-- Plain octets are a text. -/
theorem HeaderValue.exists_text?_eq_some {v : HeaderValue} (h : ∀ b ∈ v.bytes, isPlainByte b = true) :
    ∃ s, v.text? = some s := by
  refine ⟨_, text?_eq_some_iff.2 ⟨List.all_eq_true.2 h, (Text.Utf8.encode_ofList_ascii fun b hb => ?_).symm⟩⟩
  rcases isPlainByte_iff.1 (h b hb) with rfl | ⟨-, hle⟩
  · decide
  · exact UInt8.lt_of_le_of_lt hle (by decide)

theorem Response.notText_iff {r : Response} : r.NotText ↔ r.contentType?.any Envelope.isTextual = false := by
  unfold contentType? Headers.get?
  cases hfirst : (r.headers.getAll .contentType).head? with
  | none => exact iff_of_true (.missing (List.head?_eq_none_iff.1 hfirst)) rfl
  | some first =>
    rw [Option.bind_some]
    by_cases hplain : ∀ b ∈ first.bytes, isPlainByte b = true
    · obtain ⟨contentType, htext⟩ := HeaderValue.exists_text?_eq_some hplain
      obtain ⟨-, hbytes⟩ := HeaderValue.text?_eq_some_iff.1 htext
      rw [htext, Option.any_some, Bool.eq_false_iff, ne_eq, Envelope.isTextual_iff]
      constructor
      · rintro (h | ⟨h, hmem, hout⟩ | ⟨h, hbytes', htype⟩)
        · rw [h] at hfirst
          cases hfirst
        · rw [hfirst] at h
          cases h
          exact absurd (isPlainByte_iff.1 (hplain _ hmem)) hout
        · rw [hfirst] at h
          cases h
          rwa [Text.Utf8.encode_injective (hbytes.symm.trans hbytes')]
      · exact .otherType hfirst hbytes
    · have hnone : first.text? = none := if_neg (mt List.all_eq_true.1 hplain)
      rw [hnone]
      refine iff_of_true ?_ rfl
      obtain ⟨b, hmem, hb⟩ : ∃ b ∈ first.bytes, ¬ isPlainByte b = true := by simpa using hplain
      exact .unreadable hfirst hmem (mt isPlainByte_iff.2 hb)

/-! ### Bodies -/

/-- The text stands for the octets: they are its own, or it spells them in base64. -/
def StandsFor (text : String) (coded : Bool) (bytes : Bytes) : Prop :=
  if coded then Base64.decode (Text.Utf8.encode text) = .ok bytes else Text.Utf8.encode text = bytes

/-- An event is read as the body that its text stands for. -/
theorem Event.requestBody_of_standsFor {e : Event} {text : String} {bytes : Bytes} (hbody : e.body = some text)
    (h : StandsFor text e.isBase64Encoded bytes) : e.requestBody = .ok bytes := by
  unfold requestBody StandsFor at *
  rw [hbody]
  dsimp only
  split at h
  · rename_i hcoded
    rw [if_pos hcoded, h]
  · rename_i hplain
    rw [if_neg hplain, h]

namespace Envelope

/-- What goes in base64: bodies that are no text, and those that the response does not say to be one. -/
theorem encodeBody_flag (textual : Bool) (body : Bytes) : (encodeBody textual body).2 = true ↔
    body ≠ [] ∧ ((∀ s, Text.Utf8.encode s ≠ body) ∨ textual = false) := by
  rw [← Text.Utf8.decode?_eq_none_iff]
  unfold encodeBody
  by_cases hempty : body = []
  · simp [hempty]
  · rw [if_neg hempty]
    cases Text.Utf8.decode? body <;> cases textual <;> simp [hempty]

/-- Whichever way it goes, the text stands for the body. -/
theorem standsFor_encodeBody (textual : Bool) (body : Bytes) :
    StandsFor (encodeBody textual body).1 (encodeBody textual body).2 body := by
  unfold encodeBody
  split
  · rename_i hempty
    rw [hempty]
    rfl
  · split
    · rename_i text hdecode
      exact Text.Utf8.encode_of_decode? hdecode
    · exact Base64.decode_encodeText body

/-- The envelope has everything of the response. -/
structure Keeps (e : Envelope) (r : Response) : Prop where
  status : e.statusCode = r.status.code
  /-- The body is in base64 if it is no text, or the response does not say that it is one. -/
  coded : e.isBase64Encoded = true ↔ r.body ≠ [] ∧ ((∀ s, Text.Utf8.encode s ≠ r.body) ∨ r.NotText)
  body : StandsFor e.body e.isBase64Encoded r.body
  /-- An event with this body and flag is read as the body of the response. -/
  read : ∀ event : Event, event.body = some e.body → event.isBase64Encoded = e.isBase64Encoded →
    event.requestBody = .ok r.body ∧ ∀ strip request, event.toRequest strip = .ok request → request.body = r.body
  cookies : e.cookies = (r.headers.getAll .setCookie).map fun v => Text.Utf8.decodeLenient v.bytes
  names : ∀ key, key ∈ e.headers.keys ↔ ∃ n, r.headers.getAll n ≠ [] ∧ n ≠ .setCookie ∧ n.text = key
  values : ∀ n, r.headers.getAll n ≠ [] → n ≠ .setCookie → e.headers.get? n.text =
    some (", ".intercalate ((r.headers.getAll n).map fun v => Text.Utf8.decodeLenient v.bytes))

end Envelope

/-- The envelope of a response keeps everything of it: the status, the body, as it is or in base64 and flagged so, the
cookies in their order, and every other header with all its values in their order. -/
theorem envelope_keeps_response (r : Response) : (Envelope.ofResponse r).Keeps r := by
  have hbody : StandsFor (Envelope.ofResponse r).body (Envelope.ofResponse r).isBase64Encoded r.body :=
    Envelope.standsFor_encodeBody _ _
  constructor
  case status => rfl
  case coded =>
    rw [Response.notText_iff]
    exact Envelope.encodeBody_flag _ _
  case body => exact hbody
  case read =>
    intro event htext hflag
    have hread : event.requestBody = .ok r.body := Event.requestBody_of_standsFor htext (hflag ▸ hbody)
    refine ⟨hread, fun strip request hrequest => ?_⟩
    have hmakes := (Event.toRequest_eq_ok_iff.1 hrequest).body
    rw [hread] at hmakes
    exact (Except.ok.inj hmakes).symm
  case cookies => rfl
  case names =>
    intro key
    simp only [Envelope.mem_keys_headers, Headers.mem_names]
  case values =>
    intro n hvalues hcookie
    rw [Envelope.get?_headers r hcookie, if_neg hvalues]
    rfl

end CatalogGateway
