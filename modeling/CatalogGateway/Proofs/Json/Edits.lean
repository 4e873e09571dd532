import CatalogGateway.Proofs.Json.Records
import CatalogGateway.Proofs.NameMap

/-!
# What a record does not see

A record is read from the members that it knows.  It does not see other members, the order of the members, whether a
member that may be null is null or missing, nor what the values of its members do not see themselves (`Record.Edit`).  The
lemmas follow the ways to put a record together (`Record.Stable`), and give that a record is read alike before and after
such a change (`Record.Stable.ignores`).  A map from names does not see the order of its members either
(`decodeNameMap_ignores`).
-/

namespace CatalogGateway.Json

variable {α β : Type}

/-- Where two values are related, they are read as the same, or neither is accepted. -/
def Decoder.Ignores (value : Decoder α) (R : Json → Json → Prop) : Prop :=
  ∀ v v', R v v' → ∀ a, value v = .ok a ↔ value v' = .ok a

theorem Decoder.Ignores.option {value : Decoder α} {R : Json → Json → Prop} (h : value.Ignores R)
    (hne : ∀ v v', R v v' → v ≠ .null ∧ v' ≠ .null) : (decodeOption value).Ignores R := by
  intro v v' hR a
  obtain ⟨hv, hv'⟩ := hne v v' hR
  rw [decodeOption.eq_2 value v hv, decodeOption.eq_2 value v' hv', map_eq_ok_iff, map_eq_ok_iff]
  simp only [h v v' hR]

namespace Record

/-- The values of a field that it takes for the same, for each field with such values. -/
abbrev Alike := List (String × (Json → Json → Prop))

/-- One change to members from which a record is read. -/
inductive MembersEdit (known mayBeNull : List String) (alike : Alike) :
    List (String × Json) → List (String × Json) → Prop where
  | unknown (before after : List (String × Json)) {name : String} (v : Json) (hname : name ∉ known) :
    MembersEdit known mayBeNull alike (before ++ after) (before ++ (name, v) :: after)
  | null (before after : List (String × Json)) {name : String} (hname : name ∈ mayBeNull)
    (hnew : name ∉ (before ++ after).map (·.1)) :
    MembersEdit known mayBeNull alike (before ++ after) (before ++ (name, .null) :: after)
  | reordered {members members' : List (String × Json)} (hnames : (members.map (·.1)).Nodup)
    (h : members.Perm members') : MembersEdit known mayBeNull alike members members'
  | inside (before after : List (String × Json)) {name : String} {R : Json → Json → Prop} (hR : (name, R) ∈ alike)
    {v v' : Json} (h : R v v') :
    MembersEdit known mayBeNull alike (before ++ (name, v) :: after) (before ++ (name, v') :: after)

/-- One change to a value from which a record is read: to the members of an object, or to the items of an array, which
are the values of the fields in their order. -/
inductive Edit (r : Record α) (mayBeNull : List String) (alike : Alike) : Json → Json → Prop where
  | object {members members' : List (String × Json)} (h : MembersEdit r.names mayBeNull alike members members') :
    Edit r mayBeNull alike (.object members) (.object members')
  | array {items items' : List Json} (hfits : items.length ≤ r.names.length) (hfits' : items'.length ≤ r.names.length)
    (h : MembersEdit r.names mayBeNull alike (r.names.zip items) (r.names.zip items')) :
    Edit r mayBeNull alike (.array items) (.array items')

variable {mayBeNull : List String} {alike : Alike}

theorem Edit.ne_null {r : Record α} {v v' : Json} (h : r.Edit mayBeNull alike v v') : v ≠ .null ∧ v' ≠ .null := by
  cases h with
  | object h => exact ⟨nofun, nofun⟩
  | array hfits hfits' h => exact ⟨nofun, nofun⟩

/-! ### What is found -/

/-- What is found for a field before and after a change. -/
inductive FoundEdit (mayBeNull : List String) (alike : Alike) (name : String) : Option Json → Option Json → Prop where
  | same (o : Option Json) : FoundEdit mayBeNull alike name o o
  | null (hname : name ∈ mayBeNull) : FoundEdit mayBeNull alike name none (some .null)
  | inside {R : Json → Json → Prop} (hR : (name, R) ∈ alike) {v v' : Json} (h : R v v') :
    FoundEdit mayBeNull alike name (some v) (some v')

theorem MembersEdit.found {known : List String} {members members' : List (String × Json)}
    (h : MembersEdit known mayBeNull alike members members') {name : String} (hname : name ∈ known) :
    FoundEdit mayBeNull alike name (members.lookup name) (members'.lookup name) := by
  cases h with
  | @unknown before after other v hother =>
    have hne : name ≠ other := fun heq => hother (heq ▸ hname)
    rw [List.lookup_append, List.lookup_append, lookup_cons_eq_ite, if_neg hne]
    exact .same _
  | @null before after other hother hnew =>
    by_cases heq : name = other
    · subst heq
      have hnone : (before ++ after).lookup name = none := Classical.not_not.1 fun hsome => hnew (mem_map_fst_iff.2 hsome)
      rw [hnone]
      rw [List.lookup_append, Option.or_eq_none_iff] at hnone
      rw [List.lookup_append, hnone.1, lookup_cons_eq_ite, if_pos rfl]
      exact .null hother
    · rw [List.lookup_append, List.lookup_append, lookup_cons_eq_ite, if_neg heq]
      exact .same _
  | reordered hnames hperm =>
    rw [lookup_eq_of_perm hperm hnames]
    exact .same _
  | @inside before after other R hR v v' hv =>
    rw [List.lookup_append, List.lookup_append, lookup_cons_eq_ite, lookup_cons_eq_ite]
    by_cases heq : name = other
    · subst heq
      rw [if_pos rfl, if_pos rfl]
      cases before.lookup name with
      | some found => exact .same _
      | none => exact .inside hR hv
    · rw [if_neg heq, if_neg heq]
      exact .same _

/-- The fields of the record accept the same values after a change as before it, and it is made up of what is found for
them alike. -/
structure Stable (mayBeNull : List String) (alike : Alike) (r : Record α) : Prop where
  acceptsNull : ∀ name accept, (name, accept) ∈ r.fields → name ∈ mayBeNull → accept .null = .ok ()
  accepts : ∀ name accept, (name, accept) ∈ r.fields → ∀ R, (name, R) ∈ alike → ∀ v v', R v v' →
    (accept v = .ok () ↔ accept v' = .ok ())
  build : r.Respects fun given given' name => FoundEdit mayBeNull alike name (given.find? name) (given'.find? name)

namespace Stable

theorem pure (a : α) : Stable mayBeNull alike (Pure.pure a) where
  acceptsNull := nofun
  accepts := nofun
  build _ _ _ _ := .rfl

theorem map {r : Record α} (f : α → β) (h : Stable mayBeNull alike r) : Stable mayBeNull alike (f <$> r) where
  acceptsNull := h.acceptsNull
  accepts := h.accepts
  build := Respects.map f h.build

theorem seq {f : Record (α → β)} {r : Record α} (hf : Stable mayBeNull alike f) (hr : Stable mayBeNull alike r) :
    Stable mayBeNull alike (f <*> r) where
  acceptsNull name accept hmem := by
    rw [fields_seq] at hmem
    rcases List.mem_append.1 hmem with hmem | hmem
    · exact hf.acceptsNull name accept hmem
    · exact hr.acceptsNull name accept hmem
  accepts name accept hmem := by
    rw [fields_seq] at hmem
    rcases List.mem_append.1 hmem with hmem | hmem
    · exact hf.accepts name accept hmem
    · exact hr.accepts name accept hmem
  build := Respects.seq hf.build hr.build

theorem withDefault {name : String} {value : Decoder α} {absent : α}
    (hnull : name ∈ mayBeNull → value .null = .ok absent) (h : ∀ R, (name, R) ∈ alike → value.Ignores R) :
    Stable mayBeNull alike (Record.withDefault name value absent) where
  acceptsNull name' accept hmem hname' := by
    obtain ⟨rfl, rfl⟩ := Prod.mk.inj (List.mem_singleton.1 hmem)
    dsimp only
    rw [hnull hname']
    rfl
  accepts name' accept hmem R hR v v' hv := by
    obtain ⟨rfl, rfl⟩ := Prod.mk.inj (List.mem_singleton.1 hmem)
    dsimp only
    rw [map_eq_ok_iff, map_eq_ok_iff]
    simp only [h R hR v v' hv]
  build := by
    refine Respects.field fun given given' hname a => ?_
    unfold field
    dsimp only at hname ⊢
    generalize given.find? name = found, given'.find? name = found' at hname ⊢
    cases hname with
    | same => rfl
    | null hname =>
      dsimp only
      rw [hnull hname]
    | inside hR hv => exact h _ hR _ _ hv a

theorem optional {name : String} {value : Decoder α} (h : ∀ R, (name, R) ∈ alike → (decodeOption value).Ignores R) :
    Stable mayBeNull alike (Record.optional name value) :=
  withDefault (fun _ => rfl) h

/-- A change does not keep a value from being accepted, nor make it acceptable. -/
theorem check_iff {r : Record α} (hr : Stable mayBeNull alike r) {members members' : List (String × Json)}
    (h : MembersEdit r.names mayBeNull alike members members') : r.check members = .ok () ↔ r.check members' = .ok () := by
  rw [check_eq_ok_iff, check_eq_ok_iff]
  cases h with
  | @unknown before after name v hname =>
    have haccept : ∀ accept, r.fields.lookup name = some accept → accept v = .ok () :=
      fun accept haccept => absurd (List.mem_map_of_mem (mem_of_lookup haccept)) hname
    simp only [List.forall_mem_append, List.forall_mem_cons]
    exact and_congr_right fun _ => (and_iff_right haccept).symm
  | @null before after name hname hnew =>
    have hnull : ∀ accept, r.fields.lookup name = some accept → accept .null = .ok () :=
      fun accept haccept => hr.acceptsNull name accept (mem_of_lookup haccept) hname
    simp only [List.forall_mem_append, List.forall_mem_cons]
    exact and_congr_right fun _ => (and_iff_right hnull).symm
  | reordered hnames hperm => exact forall_congr' fun m => imp_congr_left hperm.mem_iff
  | @inside before after name R hR v v' hv =>
    have hvalue : ∀ accept, r.fields.lookup name = some accept → (accept v = .ok () ↔ accept v' = .ok ()) :=
      fun accept haccept => hr.accepts name accept (mem_of_lookup haccept) R hR v v' hv
    simp only [List.forall_mem_append, List.forall_mem_cons]
    exact and_congr_right fun _ => and_congr_left fun _ => forall₂_congr hvalue

/-- A record is read alike before and after a change. -/
theorem ignores {r : Record α} (hr : Stable mayBeNull alike r) (kind : String) :
    (r.decode kind).Ignores (r.Edit mayBeNull alike) := by
  intro v v' h a
  cases h with
  | @object members members' h =>
    have hbuild := hr.build ⟨(members.lookup ·), false, .missingField⟩ ⟨(members'.lookup ·), false, .missingField⟩
      (fun name hname => h.found hname) a
    simp only [decode, ofMembers, bind_eq_ok_iff, hr.check_iff h, hbuild]
  | @array items items' hfits hfits' h =>
    have hbuild := fun missing => hr.build ⟨((r.names.zip items).lookup ·), true, missing⟩
      ⟨((r.names.zip items').lookup ·), true, missing⟩ (fun name hname => h.found hname)
    simp only [decode, ofItems, bind_eq_ok_iff, hr.check_iff h, hbuild, if_neg (Nat.not_lt.2 hfits),
      if_neg (Nat.not_lt.2 hfits')]

end Stable

end Record

/-! ### Maps from names -/

/-- The same members in another order, each name once. -/
inductive Reordered : Json → Json → Prop where
  | intro {members members' : List (String × Json)} (hnames : (members.map (·.1)).Nodup) (h : members.Perm members') :
    Reordered (.object members) (.object members')

namespace Reordered

variable {v v' : Json}

theorem symm (h : Reordered v v') : Reordered v' v := by
  obtain ⟨hnames, hperm⟩ := h
  exact ⟨(hperm.map (·.1)).nodup_iff.1 hnames, hperm.symm⟩

theorem ne_null (h : Reordered v v') : v ≠ .null ∧ v' ≠ .null := by
  obtain ⟨hnames, hperm⟩ := h
  exact ⟨nofun, nofun⟩

end Reordered

theorem map_fst_of_decodeMembers {value : Decoder α} {members : List (String × Json)} {entries : List (String × α)}
    (h : decodeMembers value (.object members) = .ok entries) : entries.map (·.1) = members.map (·.1) := by
  rw [decodeMembers] at h
  induction members generalizing entries with
  | nil =>
    cases h
    rfl
  | cons member rest ih =>
    obtain ⟨entry, more, hentry, hmore, rfl⟩ := mapM_cons_eq_ok.1 h
    obtain ⟨a, -, rfl⟩ := map_eq_ok_iff.1 hentry
    rw [List.map_cons, List.map_cons, ih hmore]

/-- A map from names does not see the order of the members that it is read from. -/
theorem decodeNameMap_ignores (value : Decoder α) : (decodeNameMap value).Ignores Reordered := by
  have hreads : ∀ v v', Reordered v v' → ∀ m, decodeNameMap value v = .ok m → decodeNameMap value v' = .ok m := by
    rintro _ _ ⟨hnames, hperm⟩ m hm
    obtain ⟨entries, hentries, rfl⟩ := map_eq_ok_iff.1 hm
    obtain ⟨entries', hentries', hpermEntries⟩ := exists_perm_mapM hperm hentries
    rw [← map_fst_of_decodeMembers hentries] at hnames
    exact map_eq_ok_iff.2 ⟨entries', hentries', (NameMap.ofList_eq_of_perm hpermEntries hnames).symm⟩
  intro v v' h m
  exact ⟨hreads v v' h m, hreads v' v h.symm m⟩

end CatalogGateway.Json
