import CatalogGateway.Json.Decode
import CatalogGateway.Proofs.Lists

/-!
# Records read from their members

A record is read field by field (`Record.ReadsAs`), and the lemmas follow the ways to put a record together.  An object
whose members have different names is then read as what its fields make up (`Record.ReadsAs.decode`).  A member that is
left out when it has no value is found again as what it was (`lookup_present_self`).
-/

namespace CatalogGateway.Json

variable {α β : Type}

/-! ### Members -/

theorem lookup_present_self (name : String) (toJson : α → Json) (value : Option α) :
    (present name toJson value).lookup name = value.map toJson := by
  cases value with
  | none => rfl
  | some a => simp [present]

theorem lookup_present_ne {name other : String} (h : other ≠ name) (toJson : α → Json) (value : Option α) :
    (present name toJson value).lookup other = none := by
  cases value with
  | none => rfl
  | some a => simp [present, List.lookup_cons, beq_eq_false_iff_ne.2 h]

theorem names_present (name : String) (toJson : α → Json) (value : Option α) :
    ((present name toJson value).map (·.1)).Sublist [name] := by
  cases value with
  | none => exact List.nil_sublist _
  | some a => exact List.Sublist.refl _

namespace Record

section

variable {name : String} {value : Decoder α} {absent : Fields → Except DecodeError α} {given : Fields}

theorem build_field_of_some {v : Json} (h : given.find? name = some v) :
    (field name value absent).build given = value v := by
  unfold field
  dsimp only
  rw [h]

theorem build_field_of_none (h : given.find? name = none) : (field name value absent).build given = absent given := by
  unfold field
  dsimp only
  rw [h]

end

/-- Fields that are given in related ways make up the same record, or none. -/
def Respects (R : Fields → Fields → String → Prop) (r : Record α) : Prop :=
  ∀ given given' : Fields, (∀ name ∈ r.names, R given given' name) →
    ∀ a, r.build given = .ok a ↔ r.build given' = .ok a

namespace Respects

variable {R : Fields → Fields → String → Prop}

theorem map {r : Record α} (f : α → β) (h : Respects R r) : Respects R (f <$> r) := by
  intro given given' hgiven b
  have hbuild := h given given' hgiven
  rw [build_map, build_map, bind_eq_ok_iff, bind_eq_ok_iff]
  simp only [hbuild]

theorem seq {f : Record (α → β)} {r : Record α} (hf : Respects R f) (hr : Respects R r) : Respects R (f <*> r) := by
  intro given given' hgiven b
  have hnames : (f <*> r).names = f.names ++ r.names := by rw [names, fields_seq, List.map_append, names, names]
  rw [hnames, List.forall_mem_append] at hgiven
  have hbuildf := hf given given' hgiven.1
  have hbuildr := hr given given' hgiven.2
  rw [build_seq, build_seq, bind_eq_ok_iff, bind_eq_ok_iff]
  simp only [bind_eq_ok_iff, hbuildf, hbuildr]

theorem field {name : String} {value : Decoder α} {absent : Fields → Except DecodeError α}
    (h : ∀ given given', R given given' name → ∀ a,
      (Record.field name value absent).build given = .ok a ↔ (Record.field name value absent).build given' = .ok a) :
    Respects R (Record.field name value absent) :=
  fun given given' hgiven => h given given' (hgiven name (List.mem_singleton.2 rfl))

end Respects

/-- With the members that are found, each field is given a value that it accepts or none, and together they make up the
record. -/
structure ReadsAs (find? : String → Option Json) (r : Record α) (a : α) : Prop where
  accepts : ∀ name accept, (name, accept) ∈ r.fields → ∀ v, find? name = some v → accept v = .ok ()
  build : ∀ missing, r.build ⟨find?, false, missing⟩ = .ok a

namespace ReadsAs

variable {find? : String → Option Json}

theorem pure (a : α) : ReadsAs find? (Pure.pure a) a where
  accepts := nofun
  build _ := rfl

theorem map {r : Record α} {a : α} (f : α → β) (h : ReadsAs find? r a) : ReadsAs find? (f <$> r) (f a) where
  accepts := h.accepts
  build missing := by
    rw [build_map, h.build]
    rfl

theorem seq {f : Record (α → β)} {g : α → β} {r : Record α} {a : α} (hf : ReadsAs find? f g) (hr : ReadsAs find? r a) :
    ReadsAs find? (f <*> r) (g a) where
  accepts name accept hmem := by
    rw [fields_seq] at hmem
    rcases List.mem_append.1 hmem with hmem | hmem
    · exact hf.accepts name accept hmem
    · exact hr.accepts name accept hmem
  build missing := by
    rw [build_seq, hf.build, hr.build]
    rfl

variable {name : String} {value : Decoder α}

theorem field_of_some {absent : Fields → Except DecodeError α} {v : Json} {a : α} (hfind : find? name = some v)
    (hv : value v = .ok a) : ReadsAs find? (field name value absent) a where
  accepts name' accept hmem v' hv' := by
    obtain ⟨rfl, rfl⟩ := Prod.mk.inj (List.mem_singleton.1 hmem)
    rw [hfind] at hv'
    rw [← Option.some.inj hv']
    dsimp only
    rw [hv]
    rfl
  build missing := by
    rw [build_field_of_some hfind, hv]

theorem field_of_none {absent : Fields → Except DecodeError α} {a : α} (hfind : find? name = none)
    (habsent : ∀ missing, absent ⟨find?, false, missing⟩ = .ok a) : ReadsAs find? (field name value absent) a where
  accepts name' accept hmem v' hv' := by
    obtain ⟨rfl, rfl⟩ := Prod.mk.inj (List.mem_singleton.1 hmem)
    rw [hfind] at hv'
    cases hv'
  build missing := by
    rw [build_field_of_none hfind, habsent missing]

theorem required {v : Json} {a : α} (hfind : find? name = some v) (hv : value v = .ok a) :
    ReadsAs find? (Record.required name value) a :=
  field_of_some hfind hv

theorem requiredText {s : String} (hfind : find? name = some (.string s)) :
    ReadsAs find? (Record.required name decodeText) s :=
  required hfind rfl

theorem withDefault {v : Json} {a absent : α} (hfind : find? name = some v) (hv : value v = .ok a) :
    ReadsAs find? (Record.withDefault name value absent) a :=
  field_of_some hfind hv

variable {toJson : α → Json} {o : Option α}

private theorem of_option {absent : Fields → Except DecodeError (Option α)} (hfind : find? name = o.map toJson)
    (hvalue : ∀ a, o = some a → decodeOption value (toJson a) = .ok (some a))
    (habsent : ∀ missing, absent ⟨find?, false, missing⟩ = .ok none) :
    ReadsAs find? (field name (decodeOption value) absent) o := by
  cases ho : o with
  | none =>
    rw [ho] at hfind
    exact field_of_none hfind habsent
  | some a =>
    rw [ho] at hfind
    exact field_of_some hfind (hvalue a ho)

theorem optional (hfind : find? name = o.map toJson)
    (hvalue : ∀ a, o = some a → decodeOption value (toJson a) = .ok (some a)) :
    ReadsAs find? (Record.optional name value) o :=
  of_option hfind hvalue fun _ => rfl

theorem nullable (hfind : find? name = o.map toJson)
    (hvalue : ∀ a, o = some a → decodeOption value (toJson a) = .ok (some a)) :
    ReadsAs find? (Record.nullable name value) o :=
  of_option hfind hvalue fun _ => rfl

theorem optionalText {o : Option String} (hfind : find? name = o.map .string) :
    ReadsAs find? (Record.optional name decodeText) o :=
  optional hfind fun _ _ => rfl

theorem nullableText {o : Option String} (hfind : find? name = o.map .string) :
    ReadsAs find? (Record.nullable name decodeText) o :=
  nullable hfind fun _ _ => rfl

end ReadsAs

/-- The check is passed if every member that the record knows has a value that its field accepts. -/
theorem check_eq_ok_iff {r : Record α} {members : List (String × Json)} : r.check members = .ok () ↔
    ∀ m ∈ members, ∀ accept, r.fields.lookup m.1 = some accept → accept m.2 = .ok () := by
  induction members with
  | nil => simp [check]
  | cons member rest ih =>
    obtain ⟨name, v⟩ := member
    rw [List.forall_mem_cons, ← ih, check]
    dsimp only
    cases r.fields.lookup name with
    | none => simp
    | some accept =>
      dsimp only
      rw [bind_eq_ok_iff, Unique.exists_iff]
      simp

/-- An object is read as the record that its members make up. -/
theorem ReadsAs.decode {r : Record α} {a : α} {members : List (String × Json)} (h : ReadsAs (members.lookup ·) r a)
    (hnames : (members.map (·.1)).Nodup) (kind : String) : r.decode kind (.object members) = .ok a := by
  have hcheck : r.check members = .ok () :=
    check_eq_ok_iff.2 fun m hmem accept haccept =>
      h.accepts m.1 accept (mem_of_lookup haccept) m.2 (lookup_of_mem hnames hmem)
  rw [Record.decode, ofMembers, hcheck]
  exact h.build .missingField

end Record

/-! ### Values -/

variable {value : Decoder α} {toJson : α → Json}

theorem decodeOption_of_ok {v : Json} {a : α} (hne : v ≠ .null) (hv : value v = .ok a) :
    decodeOption value v = .ok (some a) := by
  rw [decodeOption.eq_2 value v hne, hv]
  rfl

theorem decodeList_array {l : List α} (h : ∀ a ∈ l, value (toJson a) = .ok a) :
    decodeList value (.array (l.map toJson)) = .ok l := by
  have hmap := mapM_map_eq_ok (f := value) (r := id) h
  rwa [List.map_id] at hmap

theorem decodeList_strings (l : List String) : decodeList decodeText (strings l) = .ok l :=
  decodeList_array fun _ _ => rfl

theorem decodeMembers_ofEntries {entries : List (String × α)} (h : ∀ e ∈ entries, value (toJson e.2) = .ok e.2) :
    decodeMembers value (ofEntries toJson entries) = .ok entries := by
  have hmap := mapM_map_eq_ok (f := fun m : String × Json => (value m.2).map fun a => (m.1, a)) (l := entries)
    (g := fun e => (e.1, toJson e.2)) (r := id) (by
      intro e he
      dsimp only
      rw [h e he]
      rfl)
  rwa [List.map_id] at hmap

theorem decodeNameMap_ofEntries {m : NameMap α} (h : ∀ e ∈ m.entries, value (toJson e.2) = .ok e.2) :
    decodeNameMap value (ofEntries toJson m.entries) = .ok m := by
  rw [decodeNameMap, decodeMembers_ofEntries h]
  exact congrArg Except.ok m.ofList_entries

theorem decodeBelow_nat {bound n : Nat} (h : n < bound) (kind : String) :
    decodeBelow bound kind (.nat n) = .ok n := by
  have hrange : (0 : Int) ≤ (n : Int) ∧ (n : Int) < bound := by omega
  simp [decodeBelow, hrange]

theorem decodeUInt16_nat (n : UInt16) : decodeUInt16 (.nat n.toNat) = .ok n := by
  rw [decodeUInt16, decodeBelow_nat n.toNat_lt]
  exact congrArg Except.ok (UInt16.ofNat_toNat ..)

theorem decodeUInt32_nat (n : UInt32) : decodeUInt32 (.nat n.toNat) = .ok n := by
  rw [decodeUInt32, decodeBelow_nat n.toNat_lt]
  exact congrArg Except.ok (UInt32.ofNat_toNat ..)

end CatalogGateway.Json
