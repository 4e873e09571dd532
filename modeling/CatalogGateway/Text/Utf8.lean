/-!
# Text as octets

The UTF-8 form of a text, the strict reading of octets as text, which inverts it (`decode?_encode`,
`encode_of_decode?`), and the lenient reading, which puts U+FFFD for every octet sequence that is no text.
-/

namespace CatalogGateway

/-- A sequence of octets. -/
abbrev Bytes := List UInt8

namespace Text.Utf8

def encode (s : String) : Bytes := s.toList.flatMap String.utf8EncodeChar

/-- The text that the octets spell, if they are well-formed UTF-8. -/
def decode? (bytes : Bytes) : Option String := String.fromUTF8? bytes.toByteArray

theorem toByteArray_encode (s : String) : (encode s).toByteArray = s.toByteArray := by
  rw [← String.utf8Encode_toList]
  rfl

private theorem toByteArray_injective {a b : Bytes} (h : a.toByteArray = b.toByteArray) : a = b := by
  have := congrArg (fun x => x.data.toList) h
  simpa using this

theorem decode?_encode (s : String) : decode? (encode s) = some s := by
  have hv : s.toByteArray.IsValidUTF8 := s.isValidUTF8
  simp only [decode?, toByteArray_encode, String.fromUTF8?, hv, dif_pos]
  rfl

theorem encode_of_decode? {bytes : Bytes} {s : String} (h : decode? bytes = some s) : encode s = bytes := by
  simp only [decode?, String.fromUTF8?] at h
  split at h
  · refine toByteArray_injective ?_
    rw [toByteArray_encode, ← Option.some.inj h]
    rfl
  · exact absurd h (by simp)

theorem encode_injective {s t : String} (h : encode s = encode t) : s = t := by
  have := decode?_encode s
  rw [h, decode?_encode] at this
  exact (Option.some.inj this).symm

theorem encode_append (s t : String) : encode (s ++ t) = encode s ++ encode t := by
  simp [encode]

/-- An octet that continues a character. -/
def isContinuation (b : UInt8) : Bool := 0x80 ≤ b && b ≤ 0xbf

/-- The second octets that may follow a given first octet of a character of two or more octets. -/
def mayFollow (first second : UInt8) : Bool :=
  if first == 0xe0 then 0xa0 ≤ second && second ≤ 0xbf
  else if first == 0xed then 0x80 ≤ second && second ≤ 0x9f
  else if first == 0xf0 then 0x90 ≤ second && second ≤ 0xbf
  else if first == 0xf4 then 0x80 ≤ second && second ≤ 0x8f
  else isContinuation second

/-- The length of the longest start of the octets that begins some character, and one if none does.  It is what a
single replacement character stands for when the octets do not start with a whole character. -/
def brokenLength : Bytes → Nat
  | first :: second :: third :: _ =>
    if 0xe0 ≤ first ∧ first ≤ 0xf4 ∧ mayFollow first second then
      if 0xf0 ≤ first ∧ isContinuation third then 3 else 2
    else 1
  | [first, second] => if 0xe0 ≤ first ∧ first ≤ 0xf4 ∧ mayFollow first second then 2 else 1
  | _ => 1

/-- The first character that the octets spell. -/
def head? (bytes : Bytes) : Option Char := (bytes.take 4).toByteArray.utf8DecodeChar? 0

/-- Reads octets as characters, putting U+FFFD for each broken sequence. -/
def lenient : Bytes → List Char
  | [] => []
  | b :: rest =>
    match head? (b :: rest) with
    | some c => c :: lenient (rest.drop (c.utf8Size - 1))
    | none => '\ufffd' :: lenient (rest.drop (brokenLength (b :: rest) - 1))
termination_by bytes => bytes.length
decreasing_by all_goals simp only [List.length_drop, List.length_cons]; omega

/-- Reads octets as text, putting U+FFFD for each broken sequence. -/
def decodeLenient (bytes : Bytes) : String := String.ofList (lenient bytes)

end Text.Utf8

end CatalogGateway
