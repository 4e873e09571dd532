import CatalogGateway.Text.Utf8

/-!
# Octets as texts

Octets that are a text are read leniently as that text (`decodeLenient_encode`): no character is put in for anything.
Octets of ASCII are the text of the characters that they number (`encode_ofList_ascii`), and only texts of ASCII have
none but those (`forall_mem_encode_lt_iff`).
-/

namespace CatalogGateway.Text.Utf8

theorem decode?_eq_none_iff {bytes : Bytes} : decode? bytes = none ↔ ∀ s, encode s ≠ bytes := by
  constructor
  · rintro hnone s rfl
    rw [decode?_encode] at hnone
    cases hnone
  · intro h
    cases hdecode : decode? bytes with
    | none => rfl
    | some s => exact absurd (encode_of_decode? hdecode) (h s)

/-! ### The lenient reading -/

theorem head?_encodeChar (c : Char) (rest : Bytes) : head? (String.utf8EncodeChar c ++ rest) = some c := by
  have hlength : (String.utf8EncodeChar c).length ≤ 4 := by
    rw [String.length_utf8EncodeChar]
    exact c.utf8Size_le_four
  unfold head?
  rw [List.take_append, List.take_of_length_le hlength, List.toByteArray_append]
  exact ByteArray.utf8DecodeChar?_utf8EncodeChar_append

theorem lenient_encodeChar (c : Char) (rest : Bytes) :
    lenient (String.utf8EncodeChar c ++ rest) = c :: lenient rest := by
  have hhead := head?_encodeChar c rest
  have hlength := String.length_utf8EncodeChar c
  have hpos := c.utf8Size_pos
  cases hencode : String.utf8EncodeChar c with
  | nil =>
    rw [hencode, List.length_nil] at hlength
    omega
  | cons first more =>
    rw [hencode, List.cons_append] at hhead
    rw [hencode, List.length_cons] at hlength
    have hmore : more.length = c.utf8Size - 1 := by omega
    rw [List.cons_append, lenient, hhead]
    dsimp only
    rw [← hmore, List.drop_left]

theorem lenient_encode (cs : List Char) : lenient (cs.flatMap String.utf8EncodeChar) = cs := by
  induction cs with
  | nil => rw [List.flatMap_nil, lenient]
  | cons c rest ih => rw [List.flatMap_cons, lenient_encodeChar, ih]

theorem decodeLenient_encode (s : String) : decodeLenient (encode s) = s := by
  rw [decodeLenient, encode, lenient_encode, String.ofList_toList]

/-! ### ASCII -/

/-- The only octet of a character of ASCII is its number. -/
theorem utf8EncodeChar_ofNat {b : UInt8} (h : b < 128) : String.utf8EncodeChar (Char.ofNat b.toNat) = [b] := by
  have hall : ∀ n : Fin 128, String.utf8EncodeChar (Char.ofNat n) = [UInt8.ofNat n] := by decide
  have hb : b.toNat < 128 := h
  have := hall ⟨b.toNat, hb⟩
  simpa using this

theorem encode_ofList_ascii {bytes : Bytes} (h : ∀ b ∈ bytes, b < 128) :
    encode (String.ofList (bytes.map fun b => Char.ofNat b.toNat)) = bytes := by
  have hmap : bytes.map (fun b => String.utf8EncodeChar (Char.ofNat b.toNat)) = bytes.map fun b => [b] :=
    List.map_congr_left fun b hb => utf8EncodeChar_ofNat (h b hb)
  rw [encode, String.toList_ofList, List.flatMap_map, List.flatMap_def, hmap, ← List.flatMap_def,
    List.flatMap_singleton']

/-- The text has characters of ASCII only. -/
def IsAscii (s : String) : Prop := ∀ c ∈ s.toList, c.toNat < 128

instance : DecidablePred IsAscii := fun s => List.decidableBAll _ s.toList

theorem forall_mem_encode_lt_iff {s : String} : (∀ b ∈ encode s, b < 128) ↔ IsAscii s := by
  constructor
  · intro h c hc
    have hs := encode_injective (encode_ofList_ascii h)
    rw [← hs, String.toList_ofList, List.mem_map] at hc
    obtain ⟨b, hb, rfl⟩ := hc
    have hall : ∀ n : Fin 128, (Char.ofNat n).toNat < 128 := by decide
    exact hall ⟨b.toNat, h b hb⟩
  · intro h b hb
    obtain ⟨c, hc, hbc⟩ := List.mem_flatMap.1 hb
    have hall : ∀ n : Fin 128, (String.utf8EncodeChar (Char.ofNat n)).all (· < 128) = true := by decide
    have hchar := hall ⟨c.toNat, h c hc⟩
    rw [Char.ofNat_toNat] at hchar
    exact of_decide_eq_true (List.all_eq_true.1 hchar b hbc)

end CatalogGateway.Text.Utf8
