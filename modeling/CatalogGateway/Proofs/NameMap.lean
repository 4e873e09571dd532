import CatalogGateway.NameMap
import CatalogGateway.Proofs.Lists

/-!
# What is found in maps from names

A map is what is found in it (`NameMap.ext_get?`).  The map made of entries with different keys finds each of them
(`NameMap.get?_ofList`), so the order of the entries does not matter to it (`NameMap.ofList_eq_of_perm`).
-/

namespace CatalogGateway.NameMap

variable {α : Type} {l l' : List (String × α)}

theorem nodup_keys (m : NameMap α) : (m.entries.map (·.1)).Nodup := by
  rw [List.Nodup, List.pairwise_map]
  refine m.sorted.imp fun {e e'} hlt heq => ?_
  rw [heq] at hlt
  exact String.lt_irrefl e'.1 hlt

theorem ext_get? {m n : NameMap α} (h : ∀ key, m.get? key = n.get? key) : m = n := by
  have hperm : m.entries.Perm n.entries := perm_of_lookup m.nodup_keys n.nodup_keys h
  exact NameMap.ext (hperm.eq_of_pairwise (fun a b _ _ hab hba => absurd (String.lt_trans hab hba) (String.lt_irrefl _))
    m.sorted n.sorted)

/-- Entries with different keys are all found in the map that is made of them. -/
theorem get?_ofList (h : (l.map (·.1)).Nodup) (key : String) : (ofList l).get? key = l.lookup key := by
  have hfold : ∀ m : NameMap α,
      (l.foldl (fun m e => m.insert e.1 e.2) m).get? key = (l.lookup key).or (m.get? key) := by
    induction l with
    | nil =>
      intro m
      rfl
    | cons e rest ih =>
      intro m
      rw [List.map_cons, List.nodup_cons] at h
      rw [List.foldl_cons, ih h.2, List.lookup_cons]
      -- the last entry of a key is the one that stays, and there is no other
      by_cases hkey : key = e.1
      · have hrest : rest.lookup key = none := by
          rw [List.lookup_eq_none_iff]
          intro e' he'
          have hne : key ≠ e'.1 := fun heq => h.1 (hkey ▸ heq ▸ List.mem_map_of_mem he')
          exact bne_iff_ne.2 hne
        rw [hrest, hkey, get?_insert_self, beq_self_eq_true]
        rfl
      · rw [get?_insert_ne m hkey, beq_eq_false_iff_ne.2 hkey]
  rw [ofList, hfold empty, get?_empty, Option.or_none]

theorem ofList_eq_of_perm (h : l.Perm l') (hkeys : (l.map (·.1)).Nodup) : ofList l = ofList l' := by
  have hkeys' : (l'.map (·.1)).Nodup := (h.map (·.1)).nodup_iff.1 hkeys
  refine ext_get? fun key => ?_
  rw [get?_ofList hkeys, get?_ofList hkeys', lookup_eq_of_perm h hkeys]

end CatalogGateway.NameMap
