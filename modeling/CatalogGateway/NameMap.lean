/-!
# Maps from names

A finite map whose keys are texts, held as its entries in increasing order of the keys (the order of their code
points, which is also that of their UTF-8 octets).  Each key has one entry, so two maps with the same entries are
equal, and writing a key changes what is read at that key only (`get?_insert_self`, `get?_insert_ne`).
-/

namespace CatalogGateway

/-- A map from texts to values, in increasing order of the keys. -/
structure NameMap (α : Type) where
  entries : List (String × α)
  sorted : entries.Pairwise (·.1 < ·.1)

namespace NameMap

variable {α β : Type}

@[ext] theorem ext {m n : NameMap α} (h : m.entries = n.entries) : m = n := by
  cases m
  cases n
  cases h
  rfl

instance [DecidableEq α] : DecidableEq (NameMap α) := fun m n =>
  if h : m.entries = n.entries then isTrue (NameMap.ext h) else isFalse fun e => h (congrArg entries e)

def empty : NameMap α := ⟨[], .nil⟩

instance : EmptyCollection (NameMap α) := ⟨empty⟩
instance : Inhabited (NameMap α) := ⟨empty⟩

/-- Puts an entry into its place in a sorted list of entries, in place of one with the same key. -/
def place (key : String) (value : α) : List (String × α) → List (String × α)
  | [] => [(key, value)]
  | (k, v) :: rest =>
    if key < k then (key, value) :: (k, v) :: rest
    else if key = k then (key, value) :: rest
    else (k, v) :: place key value rest

theorem mem_place {key : String} {value : α} {e : String × α} {l : List (String × α)}
    (h : e ∈ place key value l) : e = (key, value) ∨ e ∈ l := by
  induction l with
  | nil => simp_all [place]
  | cons head rest ih =>
    obtain ⟨k, v⟩ := head
    simp only [place] at h
    split at h
    · simpa using h
    · split at h
      · simp only [List.mem_cons] at h ⊢
        rcases h with h | h
        · exact .inl h
        · exact .inr (.inr h)
      · simp only [List.mem_cons] at h ⊢
        rcases h with h | h
        · exact .inr (.inl h)
        · rcases ih h with h | h
          · exact .inl h
          · exact .inr (.inr h)

theorem pairwise_place (key : String) (value : α) {l : List (String × α)} (h : l.Pairwise (·.1 < ·.1)) :
    (place key value l).Pairwise (·.1 < ·.1) := by
  induction l with
  | nil => simp [place]
  | cons head rest ih =>
    obtain ⟨k, v⟩ := head
    rw [List.pairwise_cons] at h
    simp only [place]
    split
    · rename_i hlt
      refine List.pairwise_cons.2 ⟨?_, List.pairwise_cons.2 h⟩
      intro e he
      rcases List.mem_cons.1 he with rfl | he
      · exact hlt
      · exact String.lt_trans hlt (h.1 e he)
    · split
      · rename_i heq
        exact List.pairwise_cons.2 ⟨fun e he => heq ▸ h.1 e he, h.2⟩
      · rename_i hlt hne
        refine List.pairwise_cons.2 ⟨fun e he => ?_, ih h.2⟩
        rcases mem_place he with rfl | he
        · exact Std.lt_of_le_of_ne hlt (Ne.symm hne)
        · exact h.1 e he

def get? (m : NameMap α) (key : String) : Option α := m.entries.lookup key

def insert (m : NameMap α) (key : String) (value : α) : NameMap α :=
  ⟨place key value m.entries, pairwise_place key value m.sorted⟩

/-- The map with the entries written one after the other. -/
def ofList (l : List (String × α)) : NameMap α := l.foldl (fun m e => m.insert e.1 e.2) empty

def keys (m : NameMap α) : List String := m.entries.map (·.1)

def map (f : α → β) (m : NameMap α) : NameMap β :=
  ⟨m.entries.map fun e => (e.1, f e.2), by
    rw [List.pairwise_map]
    exact m.sorted⟩

theorem lookup_place_self (key : String) (value : α) (l : List (String × α)) :
    (place key value l).lookup key = some value := by
  induction l with
  | nil => simp [place]
  | cons head rest ih =>
    obtain ⟨k, v⟩ := head
    simp only [place]
    split
    · simp
    · split
      · simp
      · rename_i hne
        simp [List.lookup_cons, beq_eq_false_iff_ne.2 hne, ih]

theorem lookup_place_ne {key other : String} (h : other ≠ key) (value : α) (l : List (String × α)) :
    (place key value l).lookup other = l.lookup other := by
  induction l with
  | nil => simp [place, List.lookup_cons, beq_eq_false_iff_ne.2 h]
  | cons head rest ih =>
    obtain ⟨k, v⟩ := head
    simp only [place]
    split
    · simp [List.lookup_cons, beq_eq_false_iff_ne.2 h]
    · split
      · rename_i heq
        subst heq
        simp [List.lookup_cons, beq_eq_false_iff_ne.2 h]
      · simp only [List.lookup_cons, ih]

theorem place_of_forall_lt {key : String} {l : List (String × α)} (h : ∀ e ∈ l, e.1 < key) (value : α) :
    place key value l = l ++ [(key, value)] := by
  induction l with
  | nil => rfl
  | cons head rest ih =>
    obtain ⟨k, v⟩ := head
    have hk : k < key := h (k, v) (by simp)
    have hne : key ≠ k := fun e => String.lt_irrefl k (e ▸ hk)
    have hnlt : ¬ key < k := fun hlt => String.lt_irrefl k (String.lt_trans hk hlt)
    simp [place, hne, hnlt, ih fun e he => h e (by simp [he])]

private theorem entries_foldl_insert (m : NameMap α) (l : List (String × α))
    (h : (m.entries ++ l).Pairwise (·.1 < ·.1)) :
    (l.foldl (fun m e => m.insert e.1 e.2) m).entries = m.entries ++ l := by
  induction l generalizing m with
  | nil => simp
  | cons e rest ih =>
    have hm : (m.insert e.1 e.2).entries = m.entries ++ [e] := by
      refine place_of_forall_lt (fun x hx => ?_) e.2
      exact (List.pairwise_append.1 h).2.2 x hx e (by simp)
    rw [List.foldl_cons, ih _ (by rw [hm]; simpa using h), hm]
    simp

/-- Writing the entries of a map one after the other gives the map. -/
theorem ofList_entries (m : NameMap α) : ofList m.entries = m :=
  NameMap.ext (by
    have h := entries_foldl_insert empty m.entries (by simpa [empty] using m.sorted)
    simpa [ofList, empty] using h)

@[simp] theorem get?_empty (key : String) : (empty : NameMap α).get? key = none := rfl

@[simp] theorem get?_insert_self (m : NameMap α) (key : String) (value : α) :
    (m.insert key value).get? key = some value :=
  lookup_place_self key value m.entries

theorem get?_insert_ne (m : NameMap α) {key other : String} (h : other ≠ key) (value : α) :
    (m.insert key value).get? other = m.get? other :=
  lookup_place_ne h value m.entries

end NameMap

end CatalogGateway
