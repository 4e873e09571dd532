import CatalogGateway.Encoding.Base64
import CatalogGateway.Proofs.Lists
import CatalogGateway.Proofs.Text.Utf8

/-!
# Base64 there and back

Reading the symbols of a sequence of octets gives the octets (`decode_encode`), also when the symbols travel as a text
(`decode_encodeText`), and nothing else is read (`decode_eq_ok_iff`): of all that could stand for the same octets, only
what is written for them does.  The symbols are written in groups of three octets and read in groups of four symbols, so
the inductions are on the groups; wherever a group starts, what is read from it is the same.
-/

namespace CatalogGateway.Base64

theorem value?_symbol {v : Nat} (h : v < 64) : value? (symbol v) = some v := by
  have hall : ∀ v : Fin 64, value? (symbol v) = some v.val := by decide
  exact hall ⟨v, h⟩

theorem symbol_ne_padding {v : Nat} (h : v < 64) : symbol v ≠ padding := by
  intro heq
  have hvalue := value?_symbol h
  rw [heq, show value? padding = none from rfl] at hvalue
  cases hvalue

private theorem valueAt_symbol (offset : Nat) {v : Nat} (h : v < 64) : valueAt offset (symbol v) = .ok v := by
  unfold valueAt
  rw [value?_symbol h]

private theorem splitPadding_symbol (offset i : Nat) {v : Nat} (h : v < 64) (rest : Bytes) :
    splitPadding offset i (symbol v :: rest) =
      (splitPadding offset (i + 1) rest).map fun (values, pad) => (v :: values, pad) := by
  rw [splitPadding, if_neg (symbol_ne_padding h), valueAt_symbol _ h]
  cases splitPadding offset (i + 1) rest <;> rfl

/-- The octets of a group, from the values of its symbols. -/
private theorem ofNat_values (a b c : UInt8) :
    UInt8.ofNat (a.toNat / 4 * 4 + (a.toNat % 4 * 16 + b.toNat / 16) / 16) = a ∧
    UInt8.ofNat ((a.toNat % 4 * 16 + b.toNat / 16) % 16 * 16 + (b.toNat % 16 * 4 + c.toNat / 64) / 4) = b ∧
    UInt8.ofNat ((b.toNat % 16 * 4 + c.toNat / 64) % 4 * 64 + c.toNat % 64) = c := by
  have hb := b.toNat_lt
  have hc := c.toNat_lt
  have h₁ : a.toNat / 4 * 4 + (a.toNat % 4 * 16 + b.toNat / 16) / 16 = a.toNat := by omega
  have h₂ : (a.toNat % 4 * 16 + b.toNat / 16) % 16 * 16 + (b.toNat % 16 * 4 + c.toNat / 64) / 4 = b.toNat := by omega
  have h₃ : (b.toNat % 16 * 4 + c.toNat / 64) % 4 * 64 + c.toNat % 64 = c.toNat := by omega
  rw [h₁, h₂, h₃]
  simp

/-- The values of the symbols of a group. -/
private theorem values_lt (a b c : UInt8) :
    a.toNat / 4 < 64 ∧ a.toNat % 4 * 16 + b.toNat / 16 < 64 ∧ b.toNat % 16 * 4 + c.toNat / 64 < 64 ∧
      c.toNat % 64 < 64 := by
  have ha := a.toNat_lt
  have hb := b.toNat_lt
  have hc := c.toNat_lt
  omega

/-- Reading the last group.  An octet that is missing from it is read like a zero, and not given. -/
private theorem decodeLast_encode (offset : Nat) (bytes : Bytes) (h : bytes.length ≤ 3) :
    decodeLast offset (encode bytes) = .ok bytes := by
  match bytes, h with
  | [], _ => rfl
  | [a], _ =>
    obtain ⟨ha, -, -⟩ := ofNat_values a 0 0
    obtain ⟨h₁, h₂, -, -⟩ := values_lt a 0 0
    rw [UInt8.toNat_zero, Nat.zero_div, Nat.add_zero] at ha h₂
    have hsplit : splitPadding offset 0 (encode [a]) = .ok ([a.toNat / 4, a.toNat % 4 * 16], 2) := by
      rw [encode, splitPadding_symbol _ _ h₁, splitPadding_symbol _ _ h₂]
      rfl
    have hzero : a.toNat % 4 * 16 % 16 = 0 := by omega
    simp only [decodeLast, hsplit, bind, Except.bind, hzero, ne_eq, not_true_eq_false, if_false, ha]
  | [a, b], _ =>
    obtain ⟨ha, hb, -⟩ := ofNat_values a b 0
    obtain ⟨h₁, h₂, h₃, -⟩ := values_lt a b 0
    rw [UInt8.toNat_zero, Nat.zero_div, Nat.add_zero] at hb h₃
    have hsplit : splitPadding offset 0 (encode [a, b]) =
        .ok ([a.toNat / 4, a.toNat % 4 * 16 + b.toNat / 16, b.toNat % 16 * 4], 1) := by
      rw [encode, splitPadding_symbol _ _ h₁, splitPadding_symbol _ _ h₂, splitPadding_symbol _ _ h₃]
      rfl
    have hzero : b.toNat % 16 * 4 % 4 = 0 := by omega
    simp only [decodeLast, hsplit, bind, Except.bind, hzero, ne_eq, not_true_eq_false, if_false, ha, hb]
  | [a, b, c], _ =>
    obtain ⟨ha, hb, hc⟩ := ofNat_values a b c
    obtain ⟨h₁, h₂, h₃, h₄⟩ := values_lt a b c
    have hsplit : splitPadding offset 0 (encode [a, b, c]) =
        .ok ([a.toNat / 4, a.toNat % 4 * 16 + b.toNat / 16, b.toNat % 16 * 4 + c.toNat / 64, c.toNat % 64], 0) := by
      rw [encode, encode, splitPadding_symbol _ _ h₁, splitPadding_symbol _ _ h₂, splitPadding_symbol _ _ h₃,
        splitPadding_symbol _ _ h₄]
      rfl
    simp only [decodeLast, hsplit, bind, Except.bind, ha, hb, hc]

theorem decodeGroups_encode (offset : Nat) (bytes : Bytes) : decodeGroups offset (encode bytes) = .ok bytes := by
  induction bytes using encode.induct generalizing offset with
  | case1 => exact decodeLast_encode offset [] (by decide)
  | case2 a => exact decodeLast_encode offset [a] (by simp)
  | case3 a b => exact decodeLast_encode offset [a, b] (by simp)
  | case4 a b c rest ih =>
    cases rest with
    | nil => exact decodeLast_encode offset [a, b, c] (by simp)
    | cons d more =>
      obtain ⟨ha, hb, hc⟩ := ofNat_values a b c
      obtain ⟨h₁, h₂, h₃, h₄⟩ := values_lt a b c
      -- a group follows, so this one is not the last
      obtain ⟨first, others, hmore⟩ : ∃ first others, encode (d :: more) = first :: others := by
        rcases more with _ | ⟨e, _ | ⟨f, more⟩⟩ <;> exact ⟨_, _, rfl⟩
      have ih := ih (offset + 4)
      rw [hmore] at ih
      rw [encode, hmore, decodeGroups, valueAt_symbol _ h₁, valueAt_symbol _ h₂, valueAt_symbol _ h₃,
        valueAt_symbol _ h₄, ih]
      simp only [bind, Except.bind, pure, Except.pure, ha, hb, hc]

private theorem length_encode_mod (bytes : Bytes) : (encode bytes).length % 4 = 0 := by
  induction bytes using encode.induct with
  | case1 => rfl
  | case2 a => simp [encode]
  | case3 a b => simp [encode]
  | case4 a b c rest ih =>
    rw [encode]
    simp only [List.length_cons]
    omega

/-- Reading what was written gives the octets back. -/
theorem decode_encode (bytes : Bytes) : decode (encode bytes) = .ok bytes := by
  have hstray : strayEnd? (encode bytes) = none := by
    rw [strayEnd?, if_neg (by rw [length_encode_mod]; decide)]
  rw [decode, hstray]
  exact decodeGroups_encode 0 bytes

/-! ### Nothing else is read -/

/-- An octet with a value is the symbol of that value. -/
theorem value?_eq_some {b : UInt8} {v : Nat} (h : value? b = some v) : v < 64 ∧ b = symbol v := by
  have hall : ∀ n : Fin 256, (value? (UInt8.ofNat n)).all fun v => decide (v < 64 ∧ UInt8.ofNat n = symbol v) := by
    decide +kernel
  have hb := hall ⟨b.toNat, b.toNat_lt⟩
  rw [UInt8.ofNat_toNat, h, Option.all_some] at hb
  exact of_decide_eq_true hb

private theorem valueAt_eq_ok {offset : Nat} {b : UInt8} {v : Nat} (h : valueAt offset b = .ok v) :
    v < 64 ∧ b = symbol v := by
  unfold valueAt at h
  split at h
  · rename_i hvalue
    rw [← Except.ok.inj h]
    exact value?_eq_some hvalue
  · cases h

private theorem splitPadding_eq_ok {offset i : Nat} {group : Bytes} {values : List Nat} {pad : Nat}
    (h : splitPadding offset i group = .ok (values, pad)) :
    (∀ v ∈ values, v < 64) ∧ group = values.map symbol ++ List.replicate pad padding := by
  induction group generalizing i values with
  | nil =>
    cases h
    simp
  | cons b rest ih =>
    rw [splitPadding] at h
    split at h
    · rename_i hb
      split at h
      · cases h
      · split at h
        · rename_i hrest
          cases h
          have hpadding : ∀ b ∈ rest, b = padding := fun b hmem => of_decide_eq_true (List.all_eq_true.1 hrest b hmem)
          have hreplicate := List.eq_replicate_of_mem hpadding
          simp [hb, List.replicate_succ, ← hreplicate]
        · cases h
    · obtain ⟨v, hv, h⟩ := bind_eq_ok_iff.1 h
      obtain ⟨⟨more, pad'⟩, hmore, h⟩ := bind_eq_ok_iff.1 h
      cases h
      obtain ⟨hlt, rfl⟩ := valueAt_eq_ok hv
      obtain ⟨hmorelt, rfl⟩ := ih hmore
      exact ⟨List.forall_mem_cons.2 ⟨hlt, hmorelt⟩, rfl⟩

/-- The octets that the values of a group make up have these values again. -/
private theorem values_ofNat {a b c d : Nat} (ha : a < 64) (hb : b < 64) (hc : c < 64) (hd : d < 64) :
    (UInt8.ofNat (a * 4 + b / 16)).toNat = a * 4 + b / 16 ∧
      (UInt8.ofNat (b % 16 * 16 + c / 4)).toNat = b % 16 * 16 + c / 4 ∧
      (UInt8.ofNat (c % 4 * 64 + d)).toNat = c % 4 * 64 + d := by
  refine ⟨UInt8.toNat_ofNat_of_lt' ?_, UInt8.toNat_ofNat_of_lt' ?_, UInt8.toNat_ofNat_of_lt' ?_⟩ <;>
    · unfold UInt8.size
      omega

private theorem encode_values {a b c d : Nat} (ha : a < 64) (hb : b < 64) (hc : c < 64) (hd : d < 64) (more : Bytes) :
    encode (UInt8.ofNat (a * 4 + b / 16) :: UInt8.ofNat (b % 16 * 16 + c / 4) :: UInt8.ofNat (c % 4 * 64 + d) :: more) =
      symbol a :: symbol b :: symbol c :: symbol d :: encode more := by
  obtain ⟨h₁, h₂, h₃⟩ := values_ofNat ha hb hc hd
  have ha' : (a * 4 + b / 16) / 4 = a := by omega
  have hb' : (a * 4 + b / 16) % 4 * 16 + (b % 16 * 16 + c / 4) / 16 = b := by omega
  have hc' : (b % 16 * 16 + c / 4) % 16 * 4 + (c % 4 * 64 + d) / 64 = c := by omega
  have hd' : (c % 4 * 64 + d) % 64 = d := by omega
  rw [encode, h₁, h₂, h₃, ha', hb', hc', hd']

private theorem decodeLast_eq_ok {offset : Nat} {group bytes : Bytes} (hlength : group.length ≤ 4)
    (h : decodeLast offset group = .ok bytes) : group = encode bytes := by
  obtain ⟨⟨values, pad⟩, hsplit, h⟩ := bind_eq_ok_iff.1 h
  obtain ⟨hlt, hgroup⟩ := splitPadding_eq_ok hsplit
  match values with
  | [] =>
    split_ifs at h with hempty
    cases h
    exact hempty
  | [_] => cases h
  | [a, b] =>
    dsimp only at h
    split_ifs at h with hpad hzero
    cases h
    rw [not_not] at hpad hzero
    subst hpad
    simp only [List.forall_mem_cons] at hlt
    obtain ⟨ha, hb, -⟩ := hlt
    obtain ⟨h₁, -, -⟩ := values_ofNat ha hb (c := 0) (d := 0) (by decide) (by decide)
    have ha' : (a * 4 + b / 16) / 4 = a := by omega
    have hb' : (a * 4 + b / 16) % 4 * 16 = b := by omega
    rw [hgroup, encode, h₁, ha', hb']
    rfl
  | [a, b, c] =>
    dsimp only at h
    split_ifs at h with hpad hzero
    cases h
    rw [not_not] at hpad hzero
    subst hpad
    simp only [List.forall_mem_cons] at hlt
    obtain ⟨ha, hb, hc, -⟩ := hlt
    obtain ⟨h₁, h₂, -⟩ := values_ofNat ha hb hc (d := 0) (by decide)
    have ha' : (a * 4 + b / 16) / 4 = a := by omega
    have hb' : (a * 4 + b / 16) % 4 * 16 + (b % 16 * 16 + c / 4) / 16 = b := by omega
    have hc' : (b % 16 * 16 + c / 4) % 16 * 4 = c := by omega
    rw [hgroup, encode, h₁, h₂, ha', hb', hc']
    rfl
  | a :: b :: c :: d :: others =>
    cases h
    simp only [List.forall_mem_cons] at hlt
    obtain ⟨ha, hb, hc, hd, -⟩ := hlt
    -- four symbols are a whole group
    have hrest : others.length + pad = 0 := by
      rw [hgroup] at hlength
      simp only [List.map_cons, List.cons_append, List.length_cons, List.length_append, List.length_map,
        List.length_replicate] at hlength
      omega
    obtain ⟨hothers, rfl⟩ := Nat.add_eq_zero_iff.1 hrest
    rw [hgroup, encode_values ha hb hc hd, List.length_eq_zero_iff.1 hothers]
    rfl

theorem decodeGroups_eq_ok {offset : Nat} {symbols bytes : Bytes} (h : decodeGroups offset symbols = .ok bytes) :
    symbols = encode bytes := by
  induction offset, symbols using decodeGroups.induct generalizing bytes with
  | case1 offset a b c d e rest ih =>
    rw [decodeGroups] at h
    obtain ⟨v₁, ha, h⟩ := bind_eq_ok_iff.1 h
    obtain ⟨v₂, hb, h⟩ := bind_eq_ok_iff.1 h
    obtain ⟨v₃, hc, h⟩ := bind_eq_ok_iff.1 h
    obtain ⟨v₄, hd, h⟩ := bind_eq_ok_iff.1 h
    obtain ⟨more, hmore, h⟩ := bind_eq_ok_iff.1 h
    cases h
    obtain ⟨ha', rfl⟩ := valueAt_eq_ok ha
    obtain ⟨hb', rfl⟩ := valueAt_eq_ok hb
    obtain ⟨hc', rfl⟩ := valueAt_eq_ok hc
    obtain ⟨hd', rfl⟩ := valueAt_eq_ok hd
    rw [encode_values ha' hb' hc' hd', ih hmore]
  | case2 offset group hlast =>
    have hlength : group.length ≤ 4 := by
      rcases group with _ | ⟨a, _ | ⟨b, _ | ⟨c, _ | ⟨d, _ | ⟨e, rest⟩⟩⟩⟩⟩
      case cons.cons.cons.cons.cons => exact absurd rfl (hlast a b c d e rest)
      all_goals simp
    rw [decodeGroups] at h
    · exact decodeLast_eq_ok hlength h
    · exact hlast

/-- What is read is what is written for the octets: of all that stands for the same octets, this alone. -/
theorem decode_eq_ok_iff {symbols bytes : Bytes} : decode symbols = .ok bytes ↔ symbols = encode bytes := by
  constructor
  · intro h
    unfold decode at h
    split at h
    · cases h
    · exact decodeGroups_eq_ok h
  · rintro rfl
    exact decode_encode bytes

/-! ### The symbols as text -/

private theorem symbol_lt (v : Nat) : symbol v < 128 := by
  have hlt : (if v < 26 then 65 + v else if v < 52 then 71 + v else if v < 62 then v - 4 else if v = 62 then 43 else 47)
      < 128 := by
    repeat' split
    all_goals omega
  rw [UInt8.lt_iff_toNat_lt, symbol, UInt8.toNat_ofNat_of_lt' (Nat.lt_trans hlt (by decide))]
  exact hlt

private theorem lt_of_mem_encode {bytes : Bytes} {b : UInt8} (h : b ∈ encode bytes) : b < 128 := by
  have hpad : padding < 128 := by decide
  induction bytes using encode.induct with
  | case1 => cases h
  | case2 a =>
    simp only [encode, List.mem_cons, List.not_mem_nil, or_false] at h
    rcases h with rfl | rfl | rfl | rfl
    · exact symbol_lt _
    · exact symbol_lt _
    · exact hpad
    · exact hpad
  | case3 a c =>
    simp only [encode, List.mem_cons, List.not_mem_nil, or_false] at h
    rcases h with rfl | rfl | rfl | rfl
    · exact symbol_lt _
    · exact symbol_lt _
    · exact symbol_lt _
    · exact hpad
  | case4 a c d rest ih =>
    simp only [encode, List.mem_cons] at h
    rcases h with rfl | rfl | rfl | rfl | h
    · exact symbol_lt _
    · exact symbol_lt _
    · exact symbol_lt _
    · exact symbol_lt _
    · exact ih h

/-- The octets of the text are the symbols. -/
theorem utf8_encodeText (bytes : Bytes) : Text.Utf8.encode (encodeText bytes) = encode bytes :=
  Text.Utf8.encode_ofList_ascii fun _ hb => lt_of_mem_encode hb

/-- Reading the text that was written gives the octets back. -/
theorem decode_encodeText (bytes : Bytes) : decode (Text.Utf8.encode (encodeText bytes)) = .ok bytes := by
  rw [utf8_encodeText, decode_encode]

/-- A text is read as octets if it is the text that is written for them. -/
theorem decode_utf8_eq_ok_iff {text : String} {bytes : Bytes} :
    decode (Text.Utf8.encode text) = .ok bytes ↔ text = encodeText bytes := by
  rw [decode_eq_ok_iff, ← utf8_encodeText]
  exact ⟨Text.Utf8.encode_injective, congrArg Text.Utf8.encode⟩

end CatalogGateway.Base64
