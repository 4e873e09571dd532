import CatalogGateway.Json.Printer
import CatalogGateway.Json.Reader

/-!
# JSON there and back

The compact text of a JSON value is read as that value (`Json.parse?_text`), provided that its numbers are integers of
64 bits and that it is not nested deeper than a reader goes (`Json.Plain`).  The reader is given the text of the value
and whatever comes after it, so each part of the grammar has a lemma about what it leaves of the text; a numeral ends
where something comes that closes or separates (`Json.Closes`).
-/

namespace CatalogGateway.Json

/-! ### Strings -/

private theorem hexDigit?_digitChar {d : Nat} (h : d < 16) : Text.hexDigit? (Nat.digitChar d) = some d := by
  have hall : ∀ d : Fin 16, Text.hexDigit? (Nat.digitChar d) = some d.val := by decide
  exact hall ⟨d, h⟩

/-- An escaped control character reads as its code point. -/
private theorem codeUnit?_of_lt {n : Nat} (h : n < 0x20) :
    codeUnit? '0' '0' (Nat.digitChar (n / 16)) (Nat.digitChar (n % 16)) = some n := by
  have hzero : Text.hexDigit? '0' = some 0 := by decide
  have hhigh := hexDigit?_digitChar (d := n / 16) (by omega)
  have hlow := hexDigit?_digitChar (d := n % 16) (by omega)
  have hn : n / 16 * 16 + n % 16 = n := by omega
  simp [codeUnit?, hzero, hhigh, hlow, hn]

theorem readChars_escapeChar (c : Char) (rest : List Char) :
    readChars (escapeChar c ++ rest) = (readChars rest).map fun r => (c :: r.1, r.2) := by
  by_cases hshort : c ∈ ['"', '\\', '\x08', '\x0c', '\n', '\r', '\t']
  · simp only [List.mem_cons, List.not_mem_nil, or_false] at hshort
    rcases hshort with rfl | rfl | rfl | rfl | rfl | rfl | rfl <;> rfl
  · simp only [List.mem_cons, List.not_mem_nil, or_false, not_or] at hshort
    obtain ⟨hquote, hslash, hb, hf, hn, hr, ht⟩ := hshort
    by_cases hlt : c.toNat < 0x20
    · have hescape : escapeChar c =
          ['\\', 'u', '0', '0', Nat.digitChar (c.toNat / 16), Nat.digitChar (c.toNat % 16)] := by
        simp [escapeChar, hquote, hslash, hb, hf, hn, hr, ht, hlt]
      -- control characters are neither half of a longer one
      have hhigh : isHighHalf c.toNat = false := by simp [isHighHalf]; omega
      have hlow : isLowHalf c.toNat = false := by simp [isLowHalf]; omega
      simp only [hescape, List.cons_append, List.nil_append]
      rw [readChars]
      simp [codeUnit?_of_lt hlt, hhigh, hlow]
    · have hescape : escapeChar c = [c] := by simp [escapeChar, hquote, hslash, hb, hf, hn, hr, ht, hlt]
      rw [hescape, List.cons_append, List.nil_append, readChars]
      · simp [hslash, hlt]
      · simpa using hquote
      · exact fun _ _ _ _ _ h => absurd h hslash
      · exact fun _ _ h => absurd h hslash

/-- A string is read up to its closing quote. -/
theorem readChars_escape (cs rest : List Char) : readChars (escape cs ++ rest) = some (cs, rest) := by
  induction cs with
  | nil => rfl
  | cons c cs ih =>
    have hcons : escape (c :: cs) ++ rest = escapeChar c ++ (escape cs ++ rest) := by simp [escape]
    rw [hcons, readChars_escapeChar, ih]
    rfl

/-! ### Numerals -/

def digitValues (n : Nat) : List Nat := (Nat.toDigits 10 n).map fun c => c.toNat - '0'.toNat

theorem ofDigits_digitValues (n : Nat) : ofDigits (digitValues n) = n := by
  have h := Nat.ofDigitChars_ten_toDigits (n := n)
  rw [Nat.ofDigitChars_eq_foldl] at h
  rw [ofDigits, digitValues, List.foldl_map]
  simpa [Nat.mul_comm] using h

theorem spanDigits_toDigits (n : Nat) {rest : List Char} (h : ∀ c ∈ rest.head?, c.isDigit = false) :
    spanDigits (Nat.toDigits 10 n ++ rest) = (digitValues n, rest) := by
  have hdigits : ∀ c ∈ Nat.toDigits 10 n, c.isDigit = true := fun c hc =>
    Nat.isDigit_of_mem_toDigits (by decide) (by decide) hc
  unfold spanDigits digitValues
  rw [List.takeWhile_append_of_pos hdigits, List.dropWhile_append_of_pos hdigits]
  cases rest with
  | nil => simp
  | cons c rest => simp [h c rfl]

private theorem digitValues_of_lt {n : Nat} (h : n < 10) : digitValues n = [n] := by
  rw [digitValues, Nat.toDigits_of_lt_base h, List.map_singleton]
  congr 1
  exact Nat.toNat_digitChar_sub_48_of_lt_ten h

private theorem digitValues_of_le {n : Nat} (h : 10 ≤ n) : digitValues n = digitValues (n / 10) ++ [n % 10] := by
  rw [digitValues, Nat.toDigits_of_base_le (by decide) h, List.map_append, List.map_singleton]
  congr 2
  exact Nat.toNat_digitChar_sub_48_of_lt_ten (Nat.mod_lt n (by decide))

/-- The numeral of a number other than zero does not start with a zero. -/
private theorem exists_digitValues_eq_cons {n : Nat} (h : 0 < n) :
    ∃ d rest, digitValues n = (d + 1) :: rest := by
  induction n using Nat.strongRecOn with
  | _ n ih =>
    by_cases hlt : n < 10
    · exact ⟨n - 1, [], by rw [digitValues_of_lt hlt, Nat.sub_add_cancel h]⟩
    · obtain ⟨d, rest, hd⟩ := ih (n / 10) (by omega) (by omega)
      exact ⟨d, rest ++ [n % 10], by rw [digitValues_of_le (by omega), hd, List.cons_append]⟩

theorem readWhole_toDigits (n : Nat) {rest : List Char} (h : ∀ c ∈ rest.head?, c.isDigit = false) :
    readWhole (Nat.toDigits 10 n ++ rest) = some (digitValues n, rest) := by
  unfold readWhole
  rw [spanDigits_toDigits n h]
  by_cases hlt : n < 10
  · rw [digitValues_of_lt hlt]
  · obtain ⟨d, digits, hd⟩ := exists_digitValues_eq_cons (n := n / 10) (by omega)
    rw [digitValues_of_le (by omega), hd]
    cases digits <;> rfl

private theorem le_foldl (digits : List Nat) (s : Nat) : s ≤ digits.foldl (fun n d => n * 10 + d) s := by
  induction digits generalizing s with
  | nil => exact Nat.le_refl s
  | cons d rest ih =>
    have := ih (s * 10 + d)
    rw [List.foldl_cons]
    omega

/-- As long as the number fits, every digit finds its place. -/
theorem foldl_pushWhole (digits : List Nat) (s : Nat)
    (h : digits.foldl (fun n d => n * 10 + d) s < UInt64.size) :
    digits.foldl Numeral.pushWhole ⟨s, 0, false⟩ = ⟨digits.foldl (fun n d => n * 10 + d) s, 0, false⟩ := by
  induction digits generalizing s with
  | nil => rfl
  | cons d rest ih =>
    rw [List.foldl_cons] at h
    have hlt : ¬ UInt64.size ≤ s * 10 + d := by
      have := le_foldl rest (s * 10 + d)
      omega
    rw [List.foldl_cons, Numeral.pushWhole, if_neg (by simpa using hlt)]
    exact ih (s * 10 + d) h

theorem numberOf?_digitValues {n : Nat} (h : n < UInt64.size) :
    numberOf? false (digitValues n) none none = some (.integer n) := by
  have hpush := foldl_pushWhole (digitValues n) 0 (by rw [← ofDigits, ofDigits_digitValues]; exact h)
  rw [← ofDigits, ofDigits_digitValues] at hpush
  simp [numberOf?, hpush]

theorem numberOf?_digitValues_negative {n : Nat} (hpos : 0 < n) (h : 2 * n ≤ UInt64.size) :
    numberOf? true (digitValues n) none none = some (.integer (-n)) := by
  have hpush := foldl_pushWhole (digitValues n) 0 (by rw [← ofDigits, ofDigits_digitValues]; omega)
  rw [← ofDigits, ofDigits_digitValues] at hpush
  simp [numberOf?, hpush]
  omega

/-- What may come after a value: nothing, or something that separates or closes. -/
def Closes (rest : List Char) : Prop := ∀ c ∈ rest.head?, c = ',' ∨ c = ']' ∨ c = '}'

theorem closes_nil : Closes [] := by
  intro c hc
  cases hc

namespace Closes

variable {rest : List Char}

theorem head?_isDigit (h : Closes rest) : ∀ c ∈ rest.head?, c.isDigit = false := by
  intro c hc
  rcases h c hc with rfl | rfl | rfl <;> rfl

theorem readFraction (h : Closes rest) : readFraction rest = some (none, rest) := by
  cases rest with
  | nil => rfl
  | cons c rest => rcases h c rfl with rfl | rfl | rfl <;> rfl

theorem readExponent (h : Closes rest) : readExponent rest = some (none, rest) := by
  cases rest with
  | nil => rfl
  | cons c rest => rcases h c rfl with rfl | rfl | rfl <;> rfl

end Closes

/-- An integer that fits 64 bits, with a sign or without. -/
def Number.IsWord : Number → Prop
  | .integer n => -(UInt64.size : Int) ≤ 2 * n ∧ n < UInt64.size
  | .real _ => False

theorem readUnsigned_toDigits {negative : Bool} {n : Nat} {number : Number} {rest : List Char}
    (hn : numberOf? negative (digitValues n) none none = some number) (h : Closes rest) :
    readUnsigned negative (Nat.toDigits 10 n ++ rest) = some (number, rest) := by
  simp [readUnsigned, readWhole_toDigits n h.head?_isDigit, h.readFraction, h.readExponent, hn]

theorem exists_toDigits_eq_cons (n : Nat) : ∃ c cs, Nat.toDigits 10 n = c :: cs ∧ c.isDigit = true := by
  cases hn : Nat.toDigits 10 n with
  | nil => exact absurd hn Nat.toDigits_ne_nil
  | cons c cs =>
    exact ⟨c, cs, rfl, Nat.isDigit_of_mem_toDigits (n := n) (b := 10) (by decide) (by decide) (by simp [hn])⟩

theorem readNumber_render {number : Number} (hn : number.IsWord) {rest : List Char} (h : Closes rest) :
    readNumber (number.render ++ rest) = some (number, rest) := by
  cases number with
  | real x => exact absurd hn id
  | integer n =>
    obtain ⟨hlow, hhigh⟩ := hn
    change readNumber (Decimal.numeral n ++ rest) = _
    unfold Decimal.numeral
    split
    · rename_i hneg
      have hread := numberOf?_digitValues_negative (n := n.natAbs) (by omega) (by omega)
      rw [show -(n.natAbs : Int) = n by omega] at hread
      rw [List.cons_append, readNumber, readUnsigned_toDigits hread h]
    · rename_i hneg
      have hread := numberOf?_digitValues (n := n.natAbs) (by omega)
      rw [show (n.natAbs : Int) = n by omega] at hread
      have hunsigned := readUnsigned_toDigits hread h
      obtain ⟨c, cs, hcs, hc⟩ := exists_toDigits_eq_cons n.natAbs
      rw [hcs, List.cons_append] at hunsigned ⊢
      rw [readNumber, hunsigned]
      rintro more heq
      rw [(List.cons.inj heq).1] at hc
      cases hc

/-! ### Values -/

/-- A value whose numbers are integers of 64 bits and that is nested at most so deep. -/
inductive Plain : Nat → Json → Prop where
  | null {depth : Nat} : Plain depth .null
  | bool {depth : Nat} (b : Bool) : Plain depth (.bool b)
  | number {depth : Nat} {n : Number} (h : n.IsWord) : Plain depth (.number n)
  | string {depth : Nat} (s : String) : Plain depth (.string s)
  | array {depth : Nat} {items : List Json} (h : ∀ v ∈ items, Plain depth v) : Plain (depth + 1) (.array items)
  | object {depth : Nat} {members : List (String × Json)} (h : ∀ m ∈ members, Plain depth m.2) :
    Plain (depth + 1) (.object members)

theorem Plain.nat {depth n : Nat} (h : n < UInt64.size) : Plain depth (.nat n) := by
  refine .number ⟨?_, ?_⟩ <;> omega

theorem Plain.uint16 {depth : Nat} (n : UInt16) : Plain depth (.nat n.toNat) :=
  .nat (Nat.lt_trans n.toNat_lt (by decide))

theorem Plain.uint32 {depth : Nat} (n : UInt32) : Plain depth (.nat n.toNat) :=
  .nat (Nat.lt_trans n.toNat_lt (by decide))

theorem plain_present {α : Type} {depth : Nat} {toJson : α → Json} (h : ∀ a, Plain depth (toJson a)) (name : String)
    (value : Option α) : ∀ m ∈ present name toJson value, Plain depth m.2 := by
  intro m hm
  cases value with
  | none => cases hm
  | some a =>
    rw [List.mem_singleton.1 hm]
    exact h a

theorem plain_strings {depth : Nat} (l : List String) : Plain (depth + 1) (strings l) := by
  refine .array fun v hv => ?_
  obtain ⟨s, -, rfl⟩ := List.mem_map.1 hv
  exact .string s

theorem plain_ofEntries {α : Type} {depth : Nat} {toJson : α → Json} (h : ∀ a, Plain depth (toJson a))
    (entries : List (String × α)) : Plain (depth + 1) (ofEntries toJson entries) := by
  refine .object fun m hm => ?_
  obtain ⟨e, -, rfl⟩ := List.mem_map.1 hm
  exact h e.2

theorem Number.IsWord.exists_render_eq_cons {n : Number} (h : n.IsWord) :
    ∃ c cs, n.render = c :: cs ∧ (c = '-' ∨ c.isDigit = true) := by
  cases n with
  | real x => exact absurd h id
  | integer n =>
    obtain ⟨c, cs, hcs, hc⟩ := exists_toDigits_eq_cons n.natAbs
    change ∃ c cs, Decimal.numeral n = c :: cs ∧ _
    unfold Decimal.numeral
    split
    · exact ⟨_, _, rfl, .inl rfl⟩
    · exact ⟨c, cs, hcs, .inr hc⟩

/-- A character that starts a number starts nothing else. -/
private theorem ne_of_numeral {c : Char} (h : c = '-' ∨ c.isDigit = true) :
    isSpace c = false ∧ c ∉ ['[', ']', '{', '"', 'n', 't', 'f'] := by
  have hdigit : ∀ other : Char, other ≠ '-' → other.isDigit = false → c ≠ other := by
    rintro other hne hother rfl
    rcases h with rfl | h
    · exact hne rfl
    · rw [hother] at h
      cases h
  constructor
  · simp only [isSpace, Bool.or_eq_false_iff, decide_eq_false_iff_not]
    exact ⟨⟨⟨hdigit _ (by decide) rfl, hdigit _ (by decide) rfl⟩, hdigit _ (by decide) rfl⟩,
      hdigit _ (by decide) rfl⟩
  · intro hmem
    simp only [List.mem_cons, List.not_mem_nil, or_false] at hmem
    rcases hmem with hc | hc | hc | hc | hc | hc | hc <;> exact hdigit _ (by decide) rfl hc

/-- The text of a value starts neither with a blank nor with what closes an array. -/
theorem Plain.exists_render_eq_cons {depth : Nat} {v : Json} (h : Plain depth v) :
    ∃ c cs, render v = c :: cs ∧ isSpace c = false ∧ c ≠ ']' := by
  cases h with
  | null => exact ⟨_, _, rfl, rfl, by decide⟩
  | bool b => cases b <;> exact ⟨_, _, rfl, rfl, by decide⟩
  | number h =>
    obtain ⟨c, cs, hcs, hc⟩ := h.exists_render_eq_cons
    obtain ⟨hspace, hne⟩ := ne_of_numeral hc
    exact ⟨c, cs, hcs, hspace, by simp_all⟩
  | string s => exact ⟨_, _, rfl, rfl, by decide⟩
  | @array _ items h => cases items <;> exact ⟨_, _, rfl, rfl, by decide⟩
  | @object _ members h =>
    rcases members with _ | ⟨⟨k, v⟩, rest⟩ <;> exact ⟨_, _, rfl, rfl, by decide⟩

theorem readScalar_render {n : Number} (hn : n.IsWord) {rest : List Char} (h : Closes rest) :
    readScalar (n.render ++ rest) = some (number n, rest) := by
  have hread := readNumber_render hn h
  obtain ⟨c, cs, hcs, hc⟩ := hn.exists_render_eq_cons
  obtain ⟨-, hne⟩ := ne_of_numeral hc
  rw [hcs, List.cons_append] at hread ⊢
  rw [readScalar, hread]
  · rfl
  all_goals
    rintro more heq
    rw [(List.cons.inj heq).1] at hne
    exact hne (by decide)

/-- A value that is neither array nor object is read in the same way at any depth. -/
theorem readValue_of_scalar (depth : Nat) {c : Char} {cs : List Char} (hspace : isSpace c = false) (harray : c ≠ '[')
    (hobject : c ≠ '{') : readValue depth (c :: cs) = readScalar (c :: cs) := by
  have hskip : skipSpaces (c :: cs) = c :: cs := by simp [skipSpaces, hspace]
  cases depth with
  | zero => rw [readValue, hskip]
  | succ depth =>
    rw [readValue, hskip]
    split
    · rename_i heq
      exact absurd (List.cons.inj heq).1 harray
    · rename_i heq
      exact absurd (List.cons.inj heq).1 hobject
    · rfl

/-! ### Arrays and objects -/

theorem closes_renderItems (items : List Json) (rest : List Char) : Closes (renderItems items ++ rest) := by
  intro c hc
  cases items with
  | nil => exact .inr (.inl (Option.some.inj hc).symm)
  | cons v items => exact .inl (Option.some.inj hc).symm

theorem closes_renderMembers (members : List (String × Json)) (rest : List Char) :
    Closes (renderMembers members ++ rest) := by
  intro c hc
  cases members with
  | nil => exact .inr (.inr (Option.some.inj hc).symm)
  | cons m members => exact .inl (Option.some.inj hc).symm

theorem length_lt_renderItems (items : List Json) : items.length < (renderItems items).length := by
  induction items with
  | nil => decide
  | cons v items ih =>
    simp only [renderItems, List.length_cons, List.length_append]
    omega

theorem length_lt_renderMembers (members : List (String × Json)) :
    members.length < (renderMembers members).length := by
  induction members with
  | nil => decide
  | cons m members ih =>
    obtain ⟨k, v⟩ := m
    simp only [renderMembers, List.length_cons, List.length_append]
    omega

section

/-- A reader of values gets a value back from its text. -/
def Reads (value : List Char → Reading Json) (v : Json) : Prop :=
  ∀ rest, Closes rest → value (render v ++ rest) = some (v, rest)

variable {value : List Char → Reading Json}

theorem readItems_render {v : Json} {items : List Json} (hv : Reads value v) (hitems : ∀ w ∈ items, Reads value w)
    {n : Nat} (hn : items.length < n) (rest : List Char) :
    readItems value n (render v ++ (renderItems items ++ rest)) = some (v :: items, rest) := by
  induction items generalizing v n with
  | nil =>
    cases n with
    | zero => omega
    | succ n =>
      rw [readItems, hv _ (closes_renderItems [] rest)]
      rfl
  | cons w items ih =>
    cases n with
    | zero => omega
    | succ n =>
      have hrest := ih (hitems w (by simp)) (fun x hx => hitems x (by simp [hx])) (n := n) (by simpa using hn)
      have htext : renderItems (w :: items) ++ rest = ',' :: (render w ++ (renderItems items ++ rest)) := by
        simp [renderItems]
      rw [readItems, hv _ (closes_renderItems _ rest), htext]
      change (readItems value n (render w ++ (renderItems items ++ rest))).map _ = _
      rw [hrest]
      rfl

theorem readArray_of_items {items : List Json} {cs rest : List Char} (hskip : skipSpaces cs = cs)
    (hne : cs.head? ≠ some ']') (h : readItems value cs.length cs = some (items, rest)) :
    readArray value cs = some (.array items, rest) := by
  unfold readArray
  rw [hskip]
  split
  · exact absurd rfl hne
  · rw [h]
    rfl

theorem readObject_of_members {members : List (String × Json)} {cs rest : List Char} (hskip : skipSpaces cs = cs)
    (hne : cs.head? ≠ some '}') (h : readMembers value cs.length cs = some (members, rest)) :
    readObject value cs = some (.object members, rest) := by
  unfold readObject
  rw [hskip]
  split
  · exact absurd rfl hne
  · rw [h]
    rfl

theorem readMember_render {v : Json} (hv : Reads value v) (k : String) {rest : List Char} (h : Closes rest) :
    readMember value (renderString k ++ ':' :: render v ++ rest) = some ((k, v), rest) := by
  have htext : renderString k ++ ':' :: render v ++ rest = '"' :: (escape k.toList ++ ':' :: (render v ++ rest)) := by
    simp [renderString]
  rw [htext]
  have hquote (cs : List Char) : skipSpaces ('"' :: cs) = '"' :: cs := rfl
  have hcolon (cs : List Char) : skipSpaces (':' :: cs) = ':' :: cs := rfl
  simp [readMember, hquote, hcolon, readChars_escape, hv _ h]

theorem readMembers_render {k : String} {v : Json} {members : List (String × Json)} (hv : Reads value v)
    (hmembers : ∀ m ∈ members, Reads value m.2) {n : Nat} (hn : members.length < n) (rest : List Char) :
    readMembers value n (renderString k ++ ':' :: render v ++ (renderMembers members ++ rest)) =
      some ((k, v) :: members, rest) := by
  induction members generalizing k v n with
  | nil =>
    cases n with
    | zero => omega
    | succ n =>
      rw [readMembers, readMember_render hv k (closes_renderMembers [] rest)]
      rfl
  | cons m members ih =>
    obtain ⟨k', w⟩ := m
    cases n with
    | zero => omega
    | succ n =>
      have hrest := ih (k := k') (hmembers (k', w) (by simp)) (fun x hx => hmembers x (by simp [hx])) (n := n)
        (by simpa using hn)
      have htext : renderMembers ((k', w) :: members) ++ rest =
          ',' :: (renderString k' ++ ':' :: render w ++ (renderMembers members ++ rest)) := by
        simp [renderMembers]
      rw [readMembers, readMember_render hv k (closes_renderMembers _ rest), htext]
      change (readMembers value n (renderString k' ++ ':' :: render w ++ (renderMembers members ++ rest))).map _ = _
      rw [hrest]
      rfl

end

/-! ### The text as a whole -/

/-- The text of a value is read as the value, whatever comes after it. -/
theorem Plain.reads {depth : Nat} {v : Json} (h : Plain depth v) : Reads (readValue depth) v := by
  -- the first character decides what is read; an array or object is no longer than its text, so the fuel suffices
  induction h with
  | @null depth =>
    intro rest _
    exact readValue_of_scalar depth rfl (by decide) (by decide)
  | @bool depth b =>
    intro rest _
    cases b <;> exact readValue_of_scalar depth rfl (by decide) (by decide)
  | @number depth n h =>
    intro rest hrest
    obtain ⟨c, cs, hcs, hc⟩ := h.exists_render_eq_cons
    obtain ⟨hspace, hne⟩ := ne_of_numeral hc
    have hread := readScalar_render h hrest
    change readValue depth (n.render ++ rest) = _
    rw [hcs, List.cons_append] at hread ⊢
    rw [readValue_of_scalar depth hspace (by simp_all) (by simp_all), hread]
  | @string depth s =>
    intro rest _
    have htext : render (.string s) ++ rest = '"' :: (escape s.toList ++ rest) := rfl
    rw [htext, readValue_of_scalar depth rfl (by decide) (by decide), readScalar, readChars_escape]
    simp
  | @array depth items h ih =>
    intro rest _
    cases items with
    | nil => rfl
    | cons v items =>
      obtain ⟨c, cs, hcs, hspace, hclose⟩ := (h v (by simp)).exists_render_eq_cons
      have hfuel : items.length < (render v ++ (renderItems items ++ rest)).length := by
        have := length_lt_renderItems items
        simp only [List.length_append]
        omega
      have hitems := readItems_render (ih v List.mem_cons_self) (fun w hw => ih w (List.mem_cons_of_mem v hw)) hfuel rest
      have htext : render (.array (v :: items)) ++ rest = '[' :: (render v ++ (renderItems items ++ rest)) := by
        simp [render]
      have hskip : skipSpaces (render v ++ (renderItems items ++ rest)) = render v ++ (renderItems items ++ rest) := by
        simp [hcs, skipSpaces, hspace]
      rw [htext]
      exact readArray_of_items hskip (by simpa [hcs] using hclose) hitems
  | @object depth members h ih =>
    intro rest _
    rcases members with _ | ⟨⟨k, v⟩, members⟩
    · rfl
    · have hfuel : members.length < (renderString k ++ ':' :: render v ++ (renderMembers members ++ rest)).length := by
        have := length_lt_renderMembers members
        simp only [List.length_append]
        omega
      have hmembers := readMembers_render (k := k) (ih (k, v) List.mem_cons_self)
        (fun m hm => ih m (List.mem_cons_of_mem _ hm)) hfuel rest
      have htext : render (.object ((k, v) :: members)) ++ rest =
          '{' :: (renderString k ++ ':' :: render v ++ (renderMembers members ++ rest)) := by
        simp [render]
      rw [htext]
      exact readObject_of_members rfl (by simp [renderString]) hmembers

theorem parse?_text {v : Json} (h : Plain maxDepth v) : parse? v.text = some v := by
  have hread := h.reads [] closes_nil
  rw [List.append_nil] at hread
  simp [parse?, text, hread, skipSpaces]

end CatalogGateway.Json
