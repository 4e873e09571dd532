import CatalogGateway.Catalog.Documents
import CatalogGateway.Proofs.Json.Records
import CatalogGateway.Proofs.Json.RoundTrip

/-!
# The documents of the catalog there and back

The documents of the catalog are read back from their JSON forms, and their texts can be read whatever the names in
them.
-/

namespace CatalogGateway.Catalog

theorem ConfigV1.ofJson_toJson (c : ConfigV1) : ConfigV1.ofJson c.toJson = .ok c := by
  refine Json.Record.ReadsAs.decode (a := c) ?_ (by simp) _
  exact ((Json.Record.ReadsAs.requiredText rfl).map ConfigV1.mk).seq (.required rfl (Json.decodeUInt32_nat _))

theorem ConfigV1.plain_toJson (c : ConfigV1) : c.toJson.Plain Json.maxDepth := by
  refine @Json.Plain.object 126 _ fun m hm => ?_
  simp only [List.mem_cons, List.not_mem_nil, or_false] at hm
  rcases hm with rfl | rfl
  · exact .string _
  · exact .uint32 _

theorem ConfigV2.ofJson_toJson (c : ConfigV2) : ConfigV2.ofJson c.toJson = .ok c := by
  refine Json.Record.ReadsAs.decode (a := c) ?_ (by simp) _
  exact (((((Json.Record.ReadsAs.requiredText rfl).map ConfigV2.mk).seq (.required rfl (Json.decodeUInt32_nat _))).seq
    (.required rfl (Json.decodeUInt32_nat _))).seq (.required rfl (Json.decodeUInt32_nat _))).seq (.requiredText rfl)

theorem ConfigV2.plain_toJson (c : ConfigV2) : c.toJson.Plain Json.maxDepth := by
  refine @Json.Plain.object 126 _ fun m hm => ?_
  simp only [List.mem_cons, List.not_mem_nil, or_false] at hm
  rcases hm with rfl | rfl | rfl | rfl | rfl
  · exact .string _
  · exact .uint32 _
  · exact .uint32 _
  · exact .uint32 _
  · exact .string _

theorem Health.ofJson_toJson (h : Health) : Health.ofJson h.toJson = .ok h := by
  refine Json.Record.ReadsAs.decode (a := h) ?_ (by simp) _
  exact ((Json.Record.ReadsAs.requiredText rfl).map Health.mk).seq (.requiredText rfl)

theorem Health.plain_toJson (h : Health) : h.toJson.Plain Json.maxDepth := by
  refine @Json.Plain.object 126 _ fun m hm => ?_
  simp only [List.mem_cons, List.not_mem_nil, or_false] at hm
  rcases hm with rfl | rfl
  · exact .string _
  · exact .string _

theorem Reference.ofJson_toJson (r : Reference) : Reference.ofJson r.toJson = .ok r := by
  have hkind : ReferenceKind.ofJson r.kind.toJson = .ok r.kind := by cases r.kind; rfl
  refine Json.Record.ReadsAs.decode (a := r) ?_ (by simp) _
  exact ((Json.Record.ReadsAs.required rfl hkind).map Reference.mk).seq (.requiredText rfl)

theorem Reference.plain_toJson (r : Reference) (depth : Nat) : r.toJson.Plain (depth + 1) := by
  refine .object fun m hm => ?_
  simp only [List.mem_cons, List.not_mem_nil, or_false] at hm
  rcases hm with rfl | rfl
  · exact .string _
  · exact .string _

theorem References.ofJson_toJson (r : References) : References.ofJson r.toJson = .ok r := by
  refine Json.Record.ReadsAs.decode (a := r) ?_ (by simp) _
  exact (Json.Record.ReadsAs.required rfl (Json.decodeList_array fun a _ => a.ofJson_toJson)).map References.mk

theorem References.plain_toJson (r : References) : r.toJson.Plain Json.maxDepth := by
  refine @Json.Plain.object 126 _ fun m hm => ?_
  rw [List.mem_singleton.1 hm]
  refine .array fun v hv => ?_
  obtain ⟨reference, -, rfl⟩ := List.mem_map.1 hv
  exact reference.plain_toJson _

end CatalogGateway.Catalog
