import CatalogGateway.Proofs.Answer.Contents
import CatalogGateway.Proofs.Event.Acceptance

/-!
# Headers as they are received

An entry with one value is taken for a copy, and left out, if its name has an entry with several values as well.  So its
value is among those that the request gets exactly if there is no such entry, or the value is there anyway
(`entries_kept`).  A handler that asks for a header in any letter case gets what its values are put together to, as long
as that is a text of ASCII, and nothing otherwise (`headers_readable`).
-/

namespace CatalogGateway

theorem mem_valuesNamed {α : Type} {name : String} {entries : List (String × α)} {a : α} :
    a ∈ valuesNamed name entries ↔ ∃ entry ∈ entries, Text.lowercase entry.1 = name ∧ entry.2 = a := by
  unfold valuesNamed
  rw [List.mem_map]
  simp only [List.mem_filter, decide_eq_true_eq, and_assoc]

namespace Event

variable {e : Event}

/-! ### Entries with one value -/

/-- The value of an entry is among the values of its name: the entry is alone, or its value is there anyway. -/
inductive Kept (e : Event) (name value : String) : Prop where
  | alone (h : ∀ entry ∈ e.multiValueHeaders.getD [], Text.lowercase entry.1 ≠ Text.lowercase name)
  | copied {entry : String × List String} (hmem : entry ∈ e.multiValueHeaders.getD [])
    (hname : Text.lowercase entry.1 = Text.lowercase name) (hvalue : value ∈ entry.2)
  | cookie (hname : Text.lowercase name = HeaderName.cookie.text) (hvalue : value ∈ e.cookies.getD [])

theorem mem_headerValues_iff {name value : String} (hentry : (name, value) ∈ e.headers.getD []) :
    value ∈ e.headerValues (Text.lowercase name) ↔ e.Kept name value := by
  have hsingle : value ∈ valuesNamed (Text.lowercase name) (e.headers.getD []) :=
    mem_valuesNamed.2 ⟨_, hentry, rfl, rfl⟩
  have halone : valuesNamed (Text.lowercase name) (e.multiValueHeaders.getD []) = [] ↔
      ∀ entry ∈ e.multiValueHeaders.getD [], Text.lowercase entry.1 ≠ Text.lowercase name := by
    rw [← not_iff_not, ← ne_eq, valuesNamed_ne_nil_iff, List.mem_map]
    push Not
    rfl
  unfold headerValues
  rw [List.mem_append]
  constructor
  · rintro (h | h)
    · split at h
      · rename_i hnone
        exact .alone (halone.1 hnone)
      · obtain ⟨values, hvalues, hmem⟩ := List.mem_flatten.1 h
        obtain ⟨entry, hentry, hname, rfl⟩ := mem_valuesNamed.1 hvalues
        exact .copied hentry hname hmem
    · split at h
      · rename_i hcookie
        exact .cookie hcookie h
      · cases h
  · rintro (h | ⟨hmem, hname, hvalue⟩ | ⟨hname, hvalue⟩)
    · left
      rwa [if_pos (halone.2 h)]
    · left
      have hlisted := mem_valuesNamed.2 ⟨_, hmem, hname, rfl⟩
      rw [if_neg (List.ne_nil_of_mem hlisted)]
      exact List.mem_flatten.2 ⟨_, hlisted, hvalue⟩
    · right
      rwa [if_pos hname]

theorem lowercase_mem_headerNames {name value : String} (hentry : (name, value) ∈ e.headers.getD []) :
    Text.lowercase name ∈ e.headerNames := by
  refine mem_headerNames_iff.2 (.inr (.inl ?_))
  exact List.ne_nil_of_mem (mem_valuesNamed.2 ⟨_, hentry, rfl, rfl⟩)

end Event

/-- The value of an entry with one value is among those that are put together for its name, unless the name has an entry
with several values: then it counts as a copy of one of these, and is left out even if it is none. -/
theorem entries_kept {e : Event} {strip : Bool} {r : Request} (hr : e.toRequest strip = .ok r) {name value : String}
    (hentry : (name, value) ∈ e.headers.getD []) :
    ∃ n : HeaderName, n.text = Text.lowercase name ∧ ∃ values, (n.text, values) ∈ e.mergedHeaders ∧
      (∃ v, r.headers.getAll n = [v] ∧
        v.bytes = Text.Utf8.encode ((if n = HeaderName.cookie then "; " else ", ").intercalate values)) ∧
      (value ∈ values ↔ e.Kept name value) := by
  have hname := Event.lowercase_mem_headerNames hentry
  have hheaders := (Event.toRequest_eq_ok_iff.1 hr).headers
  obtain ⟨n, htext, v, hv, hbytes⟩ := Event.exists_getAll_of_mem_headerNames hheaders hname
  rw [← htext, Event.separator_text] at hbytes
  refine ⟨n, htext, e.headerValues n.text, Event.mem_mergedHeaders_iff.2 ⟨htext ▸ hname, rfl⟩, ⟨v, hv, hbytes⟩, ?_⟩
  rw [htext]
  exact Event.mem_headerValues_iff hentry

namespace Sample

/-- An event with a header that it gives twice with one value and once with several, of which it has one and not the
other. -/
def copiedEvent : Event :=
  { httpMethod := some "GET", path := some "/", headers := some [("X-Tag", "b"), ("x-tag", "c")],
    multiValueHeaders := some [("x-Tag", ["a", "b"])] }

end Sample

/-- A copy is among the values. -/
theorem entries_kept_copied : ∃ r, Sample.copiedEvent.toRequest false = .ok r ∧ ∃ n : HeaderName, n.text = "x-tag" ∧
    ∃ values, (n.text, values) ∈ Sample.copiedEvent.mergedHeaders ∧ "b" ∈ values := by
  obtain ⟨r, hr⟩ : ∃ r, Sample.copiedEvent.toRequest false = .ok r := exists_eq_ok_of_isSome (by decide +kernel)
  have hentry : ("X-Tag", "b") ∈ Sample.copiedEvent.headers.getD [] := by decide
  obtain ⟨n, htext, values, hvalues, -, hkept⟩ := entries_kept hr hentry
  have hlisted : ("x-Tag", ["a", "b"]) ∈ Sample.copiedEvent.multiValueHeaders.getD [] := by decide
  exact ⟨r, hr, n, htext, values, hvalues, hkept.2 (.copied hlisted (by decide) (by decide))⟩

/-- A value is left out although it is no copy. -/
theorem not_every_entry_kept : ∃ r, Sample.copiedEvent.toRequest false = .ok r ∧
    ("x-tag", "c") ∈ Sample.copiedEvent.headers.getD [] ∧ Sample.copiedEvent.mergedHeaders = [("x-tag", ["a", "b"])] ∧
    r.header? "x-tag" = some "a, b" := by
  obtain ⟨r, hr⟩ : ∃ r, Sample.copiedEvent.toRequest false = .ok r := exists_eq_ok_of_isSome (by decide +kernel)
  have hheader : (Sample.copiedEvent.toRequest false).toOption.bind (·.header? "x-tag") = some "a, b" := by
    decide +kernel
  rw [hr] at hheader
  exact ⟨r, hr, by decide, by decide, hheader⟩

/-! ### Headers as texts -/

/-- Of the octets of header values, those of ASCII are plain. -/
theorem isPlainByte_iff_of_isFieldByte {b : UInt8} (h : isFieldByte b = true) : isPlainByte b = true ↔ b < 128 := by
  unfold isFieldByte at h
  unfold isPlainByte
  simp only [Bool.or_eq_true, beq_iff_eq, Bool.and_eq_true, decide_eq_true_eq] at h ⊢
  rcases h with rfl | ⟨hlow, hne⟩
  · decide
  · constructor
    · rintro (rfl | ⟨-, hlt⟩)
      · decide
      · exact UInt8.lt_trans hlt (by decide)
    · intro hlt
      have hval : b.toNat ≠ 127 := fun heq => hne (UInt8.toNat_inj.1 heq)
      refine .inr ⟨hlow, UInt8.lt_iff_toNat_lt.2 ?_⟩
      have hlt' : b.toNat < 128 := UInt8.lt_iff_toNat_lt.1 hlt
      exact Nat.lt_of_le_of_ne (Nat.le_of_lt_succ hlt') hval

/-- A value that is a text reads as that text if it has characters of ASCII only, and does not read as a text otherwise. -/
theorem HeaderValue.text?_eq {v : HeaderValue} {s : String} (h : v.bytes = Text.Utf8.encode s) :
    v.text? = if Text.Utf8.IsAscii s then some s else none := by
  have hplain : v.bytes.all isPlainByte = true ↔ Text.Utf8.IsAscii s := by
    rw [← Text.Utf8.forall_mem_encode_lt_iff, ← h, List.all_eq_true]
    refine forall₂_congr fun b hb => ?_
    exact isPlainByte_iff_of_isFieldByte (List.all_eq_true.1 v.valid b hb)
  split
  · rename_i hascii
    exact text?_eq_some_iff.2 ⟨hplain.2 hascii, h⟩
  · rename_i hnot
    exact if_neg (mt hplain.1 hnot)

/-- A header is found in any letter case of its name. -/
theorem Request.header?_eq {r : Request} {spelling : String} {n : HeaderName} (hn : n.text = Text.lowercase spelling)
    {v : HeaderValue} (hv : r.headers.getAll n = [v]) : r.header? spelling = v.text? := by
  have hname : HeaderName.ofText? spelling = some n := by
    unfold HeaderName.ofText?
    rw [dif_pos (hn ▸ n.valid)]
    exact congrArg some (HeaderName.ext hn.symm)
  rw [header?, hname, Option.bind_some, Headers.get?, hv]
  rfl

/-- Whoever asks for a header of the event, in any letter case of its name, gets the text that its values are put
together to, if that has characters of ASCII only.  A header with any other character reads as if it were not there. -/
theorem headers_readable {e : Event} {strip : Bool} {r : Request} (hr : e.toRequest strip = .ok r) {name : String}
    (hname : name ∈ e.headerNames) {spelling : String} (hspelling : Text.lowercase spelling = name) :
    r.header? spelling = if Text.Utf8.IsAscii (e.headerText name) then some (e.headerText name) else none := by
  have hheaders := (Event.toRequest_eq_ok_iff.1 hr).headers
  obtain ⟨n, htext, v, hv, hbytes⟩ := Event.exists_getAll_of_mem_headerNames hheaders hname
  rw [Request.header?_eq (htext.trans hspelling.symm) hv]
  exact HeaderValue.text?_eq hbytes

namespace Sample

/-- An event with a header that is no text of ASCII, one with a tab, and cookies. -/
def spelledEvent : Event :=
  { httpMethod := some "GET", path := some "/", headers := some [("X-City", "Zürich"), ("X-Note", "a\tb")],
    cookies := some ["a=1", "b=2"] }

end Sample

/-- Tabs and separators are part of what is read, but no character beyond ASCII is. -/
theorem headers_readable_spelled : ∃ r, Sample.spelledEvent.toRequest false = .ok r ∧
    r.header? "X-NOTE" = some "a\tb" ∧ r.header? "Cookie" = some "a=1; b=2" ∧ r.header? "x-City" = none := by
  obtain ⟨r, hr⟩ : ∃ r, Sample.spelledEvent.toRequest false = .ok r := exists_eq_ok_of_isSome (by decide +kernel)
  have hnote : "x-note" ∈ Sample.spelledEvent.headerNames := by decide
  have hcookie : "cookie" ∈ Sample.spelledEvent.headerNames := by decide
  have hcity : "x-city" ∈ Sample.spelledEvent.headerNames := by decide
  refine ⟨r, hr, ?_, ?_, ?_⟩
  · rw [headers_readable hr hnote (by decide)]
    decide
  · rw [headers_readable hr hcookie (by decide)]
    decide
  · rw [headers_readable hr hcity (by decide)]
    decide +kernel

/-- A header that the request has, and that is a text, is not read. -/
theorem not_every_header_readable : ∃ r, Sample.spelledEvent.toRequest false = .ok r ∧
    "x-city" ∈ Sample.spelledEvent.headerNames ∧
    (∃ n v, n.text = "x-city" ∧ r.headers.getAll n = [v] ∧ v.bytes = Text.Utf8.encode "Zürich") ∧
    r.header? "x-city" = none := by
  obtain ⟨r, hr⟩ : ∃ r, Sample.spelledEvent.toRequest false = .ok r := exists_eq_ok_of_isSome (by decide +kernel)
  have hname : "x-city" ∈ Sample.spelledEvent.headerNames := by decide
  have hheaders := (Event.toRequest_eq_ok_iff.1 hr).headers
  obtain ⟨n, htext, v, hv, hbytes⟩ := Event.exists_getAll_of_mem_headerNames hheaders hname
  have hjoined : (Event.separator "x-city").intercalate (Sample.spelledEvent.headerValues "x-city") = "Zürich" := by
    decide
  rw [hjoined] at hbytes
  refine ⟨r, hr, hname, ⟨n, v, htext, hv, hbytes⟩, ?_⟩
  rw [Request.header?_eq (htext.trans (by decide)) hv, HeaderValue.text?_eq hbytes]
  decide +kernel

end CatalogGateway
