import CatalogGateway.Envelope
import CatalogGateway.Proofs.Answer.Problem
import CatalogGateway.Proofs.Catalog.Documents
import CatalogGateway.Proofs.Json.Spellings
import CatalogGateway.Settings.Logging

/-!
# The documents of the service

What the service writes as JSON it reads back: the envelopes of its responses, problems, the settings of the log, and
the documents of the catalog.  Each of these types has a canonical form, which any other spelling comes to when it is
read and written again (`documents_interchange`).
-/

namespace CatalogGateway

open Json (Canonical Interchange)
open Json.Record (Demands GivenAlike Respects)
open List (not_mem_nil)

/-! ### Envelopes -/

namespace Envelope

open Json.Record.ReadsAs (field_of_none required requiredText withDefault)

theorem ofJson_toJson (e : Envelope) : ofJson e.toJson = .ok e := by
  obtain ⟨statusCode, headers, cookies, body, isBase64Encoded⟩ := e
  have hheaders : Json.decodeNameMap Json.decodeText (Json.ofEntries .string headers.entries) = .ok headers :=
    Json.decodeNameMap_ofEntries fun _ _ => rfl
  by_cases hcookies : cookies = []
  · subst hcookies
    refine Json.Record.ReadsAs.decode ?_ (by simp) _
    exact (((((required rfl (Json.decodeUInt16_nat _)).map Envelope.mk).seq (required rfl hheaders)).seq
      (field_of_none rfl fun _ => rfl)).seq (requiredText rfl)).seq (required rfl rfl)
  · rw [toJson, if_neg hcookies]
    refine Json.Record.ReadsAs.decode ?_ (by simp) _
    exact (((((required rfl (Json.decodeUInt16_nat _)).map Envelope.mk).seq (required rfl hheaders)).seq
      (withDefault rfl (Json.decodeList_strings _))).seq (requiredText rfl)).seq (required rfl rfl)

theorem plain_toJson (e : Envelope) : e.toJson.Plain Json.maxDepth := by
  refine @Json.Plain.object 126 _ ?_
  simp only [List.forall_mem_append, List.forall_mem_cons]
  refine ⟨⟨⟨.uint16 _, Json.plain_ofEntries .string _, nofun⟩, ?_⟩, .string _, .bool _, nofun⟩
  intro m hm
  split at hm
  · cases hm
  · rw [List.mem_singleton.1 hm]
    exact Json.plain_strings _

theorem interchange : Interchange toJson ofJson ["statusCode", "headers", "cookies", "body", "isBase64Encoded"] [] := by
  have hrespects : Respects (GivenAlike []) record :=
    (((((Respects.required not_mem_nil).map Envelope.mk).seq (.required not_mem_nil)).seq
      (.withDefault not_mem_nil)).seq (.required not_mem_nil)).seq (.required not_mem_nil)
  exact hrespects.interchange nofun (by decide) rfl Demands.required.seq (.of_plain ofJson_toJson plain_toJson)

end Envelope

/-! ### Problems -/

theorem Problem.interchange : Interchange toJson ofJson ["type", "title", "status", "detail", "instance"]
    ["detail", "instance"] := by
  have hrespects : Respects (GivenAlike ["detail", "instance"]) record :=
    (((((Respects.required (by decide)).map Problem.mk).seq (.required (by decide))).seq (.required (by decide))).seq
      .nullable).seq .nullable
  have hnull : ∀ name ∈ ["detail", "instance"], ∀ accept, record.fields.lookup name = some accept →
      accept .null = .ok () := by
    intro name hname accept haccept
    simp only [List.mem_cons, List.not_mem_nil, or_false] at hname
    rcases hname with rfl | rfl
    · cases haccept
      rfl
    · cases haccept
      rfl
  exact hrespects.interchange hnull (by decide) rfl Demands.nullable.seq (.of_plain ofJson_toJson plain_toJson)

/-! ### Settings of the log -/

theorem LogFormat.canonical : Canonical toJson ofJson := by
  refine .of_plain (fun f => ?_) fun f => .string _
  cases f with
  | json => rfl
  | text => rfl

/-- A format is read from its name, and from an object with null under its name. -/
theorem LogFormat.ofJson_eq_ok_iff {v : Json} {f : LogFormat} :
    ofJson v = .ok f ↔ v = .string f.name ∨ v = .object [(f.name, .null)] := by
  have hname : ∀ name, [("json", json), ("text", text)].lookup name = some f ↔ name = f.name := by
    intro name
    rw [lookup_eq_some_iff_of_nodup (by decide)]
    cases f <;> simp [LogFormat.name]
  rw [ofJson, Json.decodeChoice_eq_ok_iff]
  simp only [hname, exists_eq_left]

namespace LogSettings

theorem ofJson_toJson (s : LogSettings) : ofJson s.toJson = .ok s := by
  refine Json.Record.ReadsAs.decode (a := s) ?_ (by simp) _
  exact ((Json.Record.ReadsAs.required rfl (LogFormat.canonical.readBack _)).map LogSettings.mk).seq (.requiredText rfl)

theorem plain_toJson (s : LogSettings) : s.toJson.Plain Json.maxDepth := by
  refine @Json.Plain.object 126 _ ?_
  simp only [List.forall_mem_cons]
  exact ⟨.string _, .string _, nofun⟩

theorem interchange : Interchange toJson ofJson ["format", "level"] [] := by
  have hrespects : Respects (GivenAlike []) record :=
    ((Respects.required not_mem_nil).map LogSettings.mk).seq (.required not_mem_nil)
  exact hrespects.interchange nofun (by decide) rfl Demands.required.seq (.of_plain ofJson_toJson plain_toJson)

end LogSettings

/-! ### Documents of the catalog -/

namespace Catalog

theorem ConfigV1.interchange : Interchange toJson ofJson ["defaultBranch", "maxSupportedApiVersion"] [] := by
  have hrespects : Respects (GivenAlike []) record :=
    ((Respects.required not_mem_nil).map ConfigV1.mk).seq (.required not_mem_nil)
  exact hrespects.interchange nofun (by decide) rfl Demands.required.seq (.of_plain ofJson_toJson plain_toJson)

theorem ConfigV2.interchange : Interchange toJson ofJson ["defaultBranch", "minSupportedApiVersion",
    "maxSupportedApiVersion", "actualApiVersion", "specVersion"] [] := by
  have hrespects : Respects (GivenAlike []) record :=
    (((((Respects.required not_mem_nil).map ConfigV2.mk).seq (.required not_mem_nil)).seq (.required not_mem_nil)).seq
      (.required not_mem_nil)).seq (.required not_mem_nil)
  exact hrespects.interchange nofun (by decide) rfl Demands.required.seq (.of_plain ofJson_toJson plain_toJson)

theorem Reference.interchange : Interchange toJson ofJson ["type", "name"] [] := by
  have hrespects : Respects (GivenAlike []) record :=
    ((Respects.required not_mem_nil).map Reference.mk).seq (.required not_mem_nil)
  exact hrespects.interchange nofun (by decide) rfl Demands.required.seq
    (.of_plain ofJson_toJson fun r => r.plain_toJson 126)

theorem References.interchange : Interchange toJson ofJson ["references"] [] := by
  have hrespects : Respects (GivenAlike []) record := (Respects.required not_mem_nil).map References.mk
  exact hrespects.interchange nofun (by decide) rfl (Demands.required.map References.mk)
    (.of_plain ofJson_toJson plain_toJson)

theorem Health.interchange : Interchange toJson ofJson ["status", "service"] [] := by
  have hrespects : Respects (GivenAlike []) record :=
    ((Respects.required not_mem_nil).map Health.mk).seq (.required not_mem_nil)
  exact hrespects.interchange nofun (by decide) rfl Demands.required.seq (.of_plain ofJson_toJson plain_toJson)

end Catalog

/-- Every document of the service is read back from the form in which it is written, and all spellings of it come to
that form when they are read and written again. -/
theorem documents_interchange :
    Interchange Envelope.toJson Envelope.ofJson ["statusCode", "headers", "cookies", "body", "isBase64Encoded"] [] ∧
    Interchange Problem.toJson Problem.ofJson ["type", "title", "status", "detail", "instance"]
      ["detail", "instance"] ∧
    (Canonical LogFormat.toJson LogFormat.ofJson ∧
      ∀ v f, LogFormat.ofJson v = .ok f ↔ v = .string f.name ∨ v = .object [(f.name, .null)]) ∧
    Interchange LogSettings.toJson LogSettings.ofJson ["format", "level"] [] ∧
    Interchange Catalog.ConfigV1.toJson Catalog.ConfigV1.ofJson ["defaultBranch", "maxSupportedApiVersion"] [] ∧
    Interchange Catalog.ConfigV2.toJson Catalog.ConfigV2.ofJson ["defaultBranch", "minSupportedApiVersion",
      "maxSupportedApiVersion", "actualApiVersion", "specVersion"] [] ∧
    Interchange Catalog.Reference.toJson Catalog.Reference.ofJson ["type", "name"] [] ∧
    Interchange Catalog.References.toJson Catalog.References.ofJson ["references"] [] ∧
    Interchange Catalog.Health.toJson Catalog.Health.ofJson ["status", "service"] [] :=
  ⟨Envelope.interchange, Problem.interchange, ⟨LogFormat.canonical, fun _ _ => LogFormat.ofJson_eq_ok_iff⟩,
    LogSettings.interchange, Catalog.ConfigV1.interchange, Catalog.ConfigV2.interchange, Catalog.Reference.interchange,
    Catalog.References.interchange, Catalog.Health.interchange⟩

/-- References in arrays, with their kind as an object. -/
example : Catalog.References.ofJson (.array [.array [.array [.object [("BRANCH", .null)], .string "main"]]]) =
    .ok ⟨[.branch "main"]⟩ := rfl

end CatalogGateway
