import CatalogGateway.Encoding.Percent

/-!
# Percent encodings

A text is percent-encoded by writing escapes for the octets of some of its characters, among them every percent sign
(`Percent.Encodes`).  There are many ways to do so, and each of them is decoded to the text
(`Percent.decode?_of_encodes`).
-/

namespace CatalogGateway.Percent

open Text

/-- The characters are escapes of the octets, one for each of them. -/
inductive Escapes : Bytes → List Char → Prop where
  | nil : Escapes [] []
  | cons {octet : UInt8} {high low : Char} {h l : Nat} {octets : Bytes} {escapes : List Char}
    (hhigh : hexDigit? high = some h) (hlow : hexDigit? low = some l) (hoctet : octet.toNat = 16 * h + l)
    (rest : Escapes octets escapes) : Escapes (octet :: octets) ('%' :: high :: low :: escapes)

/-- The characters with some of them, and all percent signs, replaced by escapes of their octets. -/
inductive Encodes : List Char → List Char → Prop where
  | nil : Encodes [] []
  | kept {c : Char} {text encoded : List Char} (hc : c ≠ '%') (rest : Encodes text encoded) :
    Encodes (c :: text) (c :: encoded)
  | escaped {c : Char} {escapes text encoded : List Char} (hc : Escapes (String.utf8EncodeChar c) escapes)
    (rest : Encodes text encoded) : Encodes (c :: text) (escapes ++ encoded)

/-- A text without percent signs can stay as it is. -/
theorem Encodes.refl {text : List Char} (h : '%' ∉ text) : Encodes text text := by
  induction text with
  | nil => exact .nil
  | cons c rest ih =>
    rw [List.mem_cons, not_or] at h
    exact .kept (Ne.symm h.1) (ih h.2)

theorem octets_of_ne {c : Char} (hc : c ≠ '%') (rest : List Char) :
    octets (c :: rest) = String.utf8EncodeChar c ++ octets rest := by
  rw [octets]
  intro high low more heq
  exact absurd heq hc

theorem Escapes.octets_append {bytes : Bytes} {escapes : List Char} (h : Escapes bytes escapes) (rest : List Char) :
    octets (escapes ++ rest) = bytes ++ octets rest := by
  induction h with
  | nil => rfl
  | cons hhigh hlow hoctet _ ih =>
    simp only [List.cons_append, octets, hhigh, hlow, ih, ← hoctet, UInt8.ofNat_toNat]

theorem Encodes.octets_eq {text encoded : List Char} (h : Encodes text encoded) :
    octets encoded = text.flatMap String.utf8EncodeChar := by
  induction h with
  | nil => rfl
  | kept hc _ ih => rw [octets_of_ne hc, ih, List.flatMap_cons]
  | escaped hc _ ih => rw [hc.octets_append, ih, List.flatMap_cons]

/-- Any encoding of a text is decoded to it. -/
theorem decode?_of_encodes {text encoded : String} (h : Encodes text.toList encoded.toList) :
    decode? encoded = some text := by
  rw [decode?, h.octets_eq]
  exact Utf8.decode?_encode text

end CatalogGateway.Percent
