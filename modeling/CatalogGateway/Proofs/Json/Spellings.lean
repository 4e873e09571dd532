import CatalogGateway.Proofs.Json.Records
import CatalogGateway.Proofs.Json.RoundTrip

/-!
# Spellings of one value

A type has a canonical form if its values are read back from their JSON forms and from the texts of these
(`Canonical`).  Other JSON values may be read as the same value.  One of several alternatives is read from its name, or
from an object with null under the name (`decodeChoice_eq_ok_iff`).  A record is read from an object whatever the order
of its members and whatever members it has besides, and from an array that lists the values of its fields
(`Interchange`).  Both follow from what the record makes of fields that are given alike (`Record.GivenAlike`).
-/

namespace CatalogGateway.Json

variable {α β : Type}

/-! ### Canonical forms -/

/-- A value is written in one form, in which it is read back. -/
structure Canonical (toJson : α → Json) (ofJson : Decoder α) : Prop where
  readBack : ∀ a, ofJson (toJson a) = .ok a
  /-- The text of the form is read as the form. -/
  legible : ∀ a, parse? (toJson a).text = some (toJson a)
  /-- However a value is spelled, it is written as a text that is read as the value again, and written as it stands. -/
  settles : ∀ v a, ofJson v = .ok a → ∃ w, parse? (toJson a).text = some w ∧ ofJson w = .ok a ∧
    ∀ b, ofJson w = .ok b → (toJson b).text = (toJson a).text
  /-- The text tells which value it was. -/
  tells : ∀ a b, (toJson a).text = (toJson b).text ↔ a = b

theorem Canonical.of_plain {toJson : α → Json} {ofJson : Decoder α} (hread : ∀ a, ofJson (toJson a) = .ok a)
    (hplain : ∀ a, (toJson a).Plain maxDepth) : Canonical toJson ofJson := by
  have hlegible : ∀ a, parse? (toJson a).text = some (toJson a) := fun a => parse?_text (hplain a)
  constructor
  case readBack => exact hread
  case legible => exact hlegible
  case settles =>
    intro v a _
    refine ⟨toJson a, hlegible a, hread a, fun b hb => ?_⟩
    rw [Except.ok.inj ((hread a).symm.trans hb)]
  case tells =>
    intro a b
    constructor
    · intro htext
      have hform := (hlegible a).symm.trans (htext ▸ hlegible b)
      have hvalue := (hread a).symm.trans (Option.some.inj hform ▸ hread b)
      exact Except.ok.inj hvalue
    · exact fun hab => congrArg (fun a => (toJson a).text) hab

/-! ### Alternatives -/

/-- An alternative is read from its name, and from an object with null under its name. -/
theorem decodeChoice_eq_ok_iff {alternatives : List (String × α)} {v : Json} {a : α} :
    decodeChoice alternatives v = .ok a ↔
      ∃ name, alternatives.lookup name = some a ∧ (v = .string name ∨ v = .object [(name, .null)]) := by
  have hnamed : ∀ name, decodeChoice.named alternatives name = .ok a ↔ alternatives.lookup name = some a := by
    intro name
    unfold decodeChoice.named
    cases alternatives.lookup name <;> simp
  constructor
  · intro h
    unfold decodeChoice at h
    split at h
    · exact ⟨_, (hnamed _).1 h, .inl rfl⟩
    · obtain ⟨b, hb, hnull⟩ := bind_eq_ok_iff.1 h
      split at hnull
      · obtain rfl := Except.ok.inj hnull
        exact ⟨_, (hnamed _).1 hb, .inr rfl⟩
      · cases hnull
    · cases h
    · cases h
  · rintro ⟨name, hname, rfl | rfl⟩
    · exact (hnamed name).2 hname
    · exact bind_eq_ok_iff.2 ⟨a, (hnamed name).2 hname, rfl⟩

/-! ### Records -/

/-- Two objects have the same member of a name: the same value or none, where null is none if the member may be null. -/
def SameMember (mayBeNull : List String) (members members' : List (String × Json)) (name : String) : Prop :=
  members.lookup name = members'.lookup name ∨
    name ∈ mayBeNull ∧ (members.lookup name).getD .null = .null ∧ (members'.lookup name).getD .null = .null

theorem SameMember.symm {mayBeNull : List String} {members members' : List (String × Json)} {name : String}
    (h : SameMember mayBeNull members members' name) : SameMember mayBeNull members' members name := by
  rcases h with hsame | ⟨hname, hnull, hnull'⟩
  · exact .inl hsame.symm
  · exact .inr ⟨hname, hnull', hnull⟩

/-- Records of a type are interchanged as JSON, in a canonical form or in other spellings. -/
structure Interchange (toJson : α → Json) (ofJson : Decoder α) (names mayBeNull : List String) : Prop
    extends Canonical toJson ofJson where
  /-- The order of the members does not matter, nor do members of other names. -/
  object : ∀ members members', (members.map (·.1)).Nodup → (members'.map (·.1)).Nodup →
    (∀ name ∈ names, SameMember mayBeNull members members' name) →
    ∀ a, ofJson (.object members) = .ok a ↔ ofJson (.object members') = .ok a
  /-- An array is read if it lists the values of all fields, and then like the object of them. -/
  array : ∀ items a, ofJson (.array items) = .ok a ↔
    items.length = names.length ∧ ofJson (.object (names.zip items)) = .ok a

namespace Record

/-- A field is given alike in two ways: with the same value, or not at all, or in objects with null or not at all. -/
inductive GivenAlike (mayBeNull : List String) (given given' : Fields) (name : String) : Prop where
  | found {v : Json} (h : given.find? name = some v) (h' : given'.find? name = some v)
  | missing (h : given.find? name = none) (h' : given'.find? name = none)
    (hways : given.positional = given'.positional)
  | null (hname : name ∈ mayBeNull) (hgiven : given.positional = false) (hgiven' : given'.positional = false)
    (h : (given.find? name).getD .null = .null) (h' : (given'.find? name).getD .null = .null)

variable {mayBeNull : List String} {name : String} {value : Decoder α}

theorem Respects.required (hname : name ∉ mayBeNull) :
    Respects (GivenAlike mayBeNull) (Record.required name value) := by
  refine .field fun given given' h a => ?_
  cases h with
  | found h h' => rw [build_field_of_some h, build_field_of_some h']
  | missing h h' =>
    rw [build_field_of_none h, build_field_of_none h']
    exact ⟨nofun, nofun⟩
  | null hmem => exact absurd hmem hname

theorem Respects.withDefault {absent : α} (hname : name ∉ mayBeNull) :
    Respects (GivenAlike mayBeNull) (Record.withDefault name value absent) := by
  refine .field fun given given' h a => ?_
  cases h with
  | found h h' => rw [build_field_of_some h, build_field_of_some h']
  | missing h h' => rw [build_field_of_none h, build_field_of_none h']
  | null hmem => exact absurd hmem hname

/-- In an object, a member that may be null is none whether it is null or missing. -/
theorem build_nullable_of_null {given : Fields} (hgiven : given.positional = false)
    (h : (given.find? name).getD .null = .null) : (Record.nullable name value).build given = .ok none := by
  cases hfind : given.find? name with
  | none =>
    rw [Record.nullable, build_field_of_none hfind, hgiven]
    rfl
  | some v =>
    rw [hfind] at h
    obtain rfl : v = .null := h
    exact build_field_of_some hfind

theorem Respects.nullable : Respects (GivenAlike mayBeNull) (Record.nullable name value) := by
  refine .field fun given given' h a => ?_
  cases h with
  | found h h' => rw [build_field_of_some h, build_field_of_some h']
  | missing h h' hways =>
    rw [build_field_of_none h, build_field_of_none h', hways]
    split
    · exact ⟨nofun, nofun⟩
    · rfl
  | null _ hgiven hgiven' h h' =>
    have hnone : (Record.nullable name value).build given = .ok none := build_nullable_of_null hgiven h
    have hnone' : (Record.nullable name value).build given' = .ok none := build_nullable_of_null hgiven' h'
    rw [Record.nullable] at hnone hnone'
    rw [hnone, hnone']

/-- Without a value for the field, the record is not read by position. -/
def Demands (name : String) (r : Record α) : Prop :=
  ∀ given : Fields, given.positional = true → given.find? name = none → ∀ a, r.build given ≠ .ok a

theorem Demands.required : Demands name (Record.required name value) := by
  intro given _ h a
  rw [Record.required, build_field_of_none h]
  nofun

theorem Demands.nullable : Demands name (Record.nullable name value) := by
  intro given hgiven h a
  rw [Record.nullable, build_field_of_none h, if_pos hgiven]
  nofun

theorem Demands.map {r : Record α} (f : α → β) (h : Demands name r) : Demands name (f <$> r) := by
  intro given hgiven hfind b hb
  rw [build_map] at hb
  obtain ⟨a, ha, -⟩ := bind_eq_ok_iff.1 hb
  exact h given hgiven hfind a ha

theorem Demands.seq {f : Record (α → β)} {r : Record α} (h : Demands name r) : Demands name (f <*> r) := by
  intro given hgiven hfind b hb
  rw [build_seq] at hb
  obtain ⟨g, -, hb⟩ := bind_eq_ok_iff.1 hb
  obtain ⟨a, ha, -⟩ := bind_eq_ok_iff.1 hb
  exact h given hgiven hfind a ha

variable {r : Record α}

theorem givenAlike_of_sameMember {members members' : List (String × Json)} {missing : String → DecodeError}
    (h : SameMember mayBeNull members members' name) :
    GivenAlike mayBeNull ⟨(members.lookup ·), false, missing⟩ ⟨(members'.lookup ·), false, missing⟩ name := by
  rcases h with hsame | ⟨hname, hnull, hnull'⟩
  · cases hfind : members.lookup name with
    | some v => exact .found hfind (hsame.symm.trans hfind)
    | none => exact .missing hfind (hsame.symm.trans hfind) rfl
  · exact .null hname rfl rfl hnull hnull'

theorem check_of_sameMember
    (hnull : ∀ name ∈ mayBeNull, ∀ accept, r.fields.lookup name = some accept → accept .null = .ok ())
    {members members' : List (String × Json)} (hnames' : (members'.map (·.1)).Nodup)
    (hsame : ∀ name ∈ r.names, SameMember mayBeNull members members' name) (h : r.check members = .ok ()) :
    r.check members' = .ok () := by
  refine check_eq_ok_iff.2 fun m hm accept haccept => ?_
  have hfound := lookup_of_mem hnames' hm
  rcases hsame m.1 (List.mem_map_of_mem (mem_of_lookup haccept)) with hsame | ⟨hname, -, hv⟩
  · exact check_eq_ok_iff.1 h (m.1, m.2) (mem_of_lookup (hsame.trans hfound)) accept haccept
  · rw [hfound] at hv
    rw [show m.2 = .null from hv]
    exact hnull m.1 hname accept haccept

/-- Objects with the same members for the fields are read alike. -/
theorem Respects.decode_object (h : Respects (GivenAlike mayBeNull) r)
    (hnull : ∀ name ∈ mayBeNull, ∀ accept, r.fields.lookup name = some accept → accept .null = .ok ())
    {members members' : List (String × Json)} (hnames : (members.map (·.1)).Nodup) (hnames' : (members'.map (·.1)).Nodup)
    (hsame : ∀ name ∈ r.names, SameMember mayBeNull members members' name) (kind : String) (a : α) :
    r.decode kind (.object members) = .ok a ↔ r.decode kind (.object members') = .ok a := by
  have hcheck : r.check members = .ok () ↔ r.check members' = .ok () :=
    ⟨check_of_sameMember hnull hnames' hsame, check_of_sameMember hnull hnames fun name hname => (hsame name hname).symm⟩
  have hbuild := h ⟨(members.lookup ·), false, .missingField⟩ ⟨(members'.lookup ·), false, .missingField⟩
    (fun name hname => givenAlike_of_sameMember (hsame name hname)) a
  simp only [decode, ofMembers, bind_eq_ok_iff, hcheck, hbuild]

/-- The last field is missing in an array that does not list them all. -/
theorem lookup_zip_last {names : List String} {last : String} {items : List Json} (hnodup : names.Nodup)
    (hlast : names.getLast? = some last) (hshort : items.length < names.length) :
    (names.zip items).lookup last = none := by
  obtain ⟨others, rfl⟩ := List.getLast?_eq_some_iff.1 hlast
  by_contra hfound
  have hmem := mem_map_fst_iff.2 hfound
  rw [List.length_append, List.length_singleton] at hshort
  obtain ⟨m, hm, rfl⟩ := List.mem_map.1 hmem
  rw [List.zip_eq_zip_take_min] at hm
  have htake := (List.of_mem_zip hm).1
  rw [List.take_append_of_le_length (by omega)] at htake
  exact (List.nodup_append.1 hnodup).2.2 m.1 (List.mem_of_mem_take htake) m.1 (List.mem_singleton.2 rfl) rfl

/-- An array is read if it lists the values of all fields. -/
theorem Respects.decode_array (h : Respects (GivenAlike mayBeNull) r) {last : String} (hnodup : r.names.Nodup)
    (hlast : r.names.getLast? = some last) (hdemands : Demands last r) (items : List Json) (kind : String) (a : α) :
    r.decode kind (.array items) = .ok a ↔
      items.length = r.names.length ∧ r.decode kind (.object (r.names.zip items)) = .ok a := by
  have hways : items.length = r.names.length → ∀ missing,
      r.build ⟨((r.names.zip items).lookup ·), true, missing⟩ = .ok a ↔
        r.build ⟨((r.names.zip items).lookup ·), false, .missingField⟩ = .ok a := by
    intro hlength missing
    refine h _ _ (fun name hname => ?_) a
    have hmem : name ∈ (r.names.zip items).map (·.1) := by rwa [List.map_fst_zip (Nat.le_of_eq hlength.symm)]
    obtain ⟨v, hv⟩ := Option.ne_none_iff_exists'.1 (mem_map_fst_iff.1 hmem)
    exact .found hv hv
  simp only [decode, ofItems, ofMembers, bind_eq_ok_iff]
  constructor
  · rintro ⟨⟨⟩, hcheck, b, hbuild, hread⟩
    split at hread
    · cases hread
    · rename_i hlong
      obtain rfl := Except.ok.inj hread
      have hlength : items.length = r.names.length := by
        by_contra hne
        exact hdemands _ rfl (lookup_zip_last hnodup hlast (by omega)) b hbuild
      exact ⟨hlength, ⟨⟩, hcheck, (hways hlength _).1 hbuild⟩
  · rintro ⟨hlength, ⟨⟩, hcheck, hbuild⟩
    exact ⟨⟨⟩, hcheck, a, (hways hlength _).2 hbuild, if_neg (by omega)⟩

theorem Respects.interchange {toJson : α → Json} {kind last : String} (h : Respects (GivenAlike mayBeNull) r)
    (hnull : ∀ name ∈ mayBeNull, ∀ accept, r.fields.lookup name = some accept → accept .null = .ok ())
    (hnodup : r.names.Nodup) (hlast : r.names.getLast? = some last) (hdemands : Demands last r)
    (hcanonical : Canonical toJson (r.decode kind)) : Interchange toJson (r.decode kind) r.names mayBeNull :=
  ⟨hcanonical, fun _ _ hmembers hmembers' hsame => h.decode_object hnull hmembers hmembers' hsame kind,
    fun items a => h.decode_array hnodup hlast hdemands items kind a⟩

end Record

end CatalogGateway.Json
