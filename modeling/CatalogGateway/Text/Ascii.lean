/-!
# ASCII letters and digits

Case folding that touches the letters of ASCII only, and the digits of numerals in base ten and sixteen.  Every
other character is its own lower and upper case (`Char.toLower` and `Char.toUpper` are the ASCII maps).
-/

namespace CatalogGateway.Text

/-- The text with every ASCII capital letter made small. -/
def lowercase (s : String) : String := String.ofList (s.toList.map Char.toLower)

/-- The text with every ASCII small letter made capital. -/
def uppercase (s : String) : String := String.ofList (s.toList.map Char.toUpper)

@[simp] theorem toList_lowercase (s : String) : (lowercase s).toList = s.toList.map Char.toLower := by
  simp [lowercase]

@[simp] theorem toList_uppercase (s : String) : (uppercase s).toList = s.toList.map Char.toUpper := by
  simp [uppercase]

private theorem isLower_toUpper (c : Char) : c.toUpper.isLower = false := by
  by_cases h : 'a'.val ≤ c.val ∧ c.val ≤ 'z'.val
  · have hval : c.toUpper.val = c.val + ('A'.val - 'a'.val) := by
      have hcapital : c.toUpper = ⟨c.val + ('A'.val - 'a'.val), _⟩ := dif_pos h
      rw [hcapital]
    have hbelow : ¬ 'a'.val ≤ c.toUpper.val := by
      rw [hval]
      simp only [UInt32.le_iff_toNat_le, UInt32.toNat_add, Char.reduceVal, UInt32.reduceSub, UInt32.reduceToNat] at h ⊢
      omega
    exact Bool.and_eq_false_iff.2 (.inl (decide_eq_false hbelow))
  · have hsame : c.toUpper = c := dif_neg h
    rw [hsame]
    rcases Decidable.not_and_iff_not_or_not.1 h with hbelow | habove
    · exact Bool.and_eq_false_iff.2 (.inl (decide_eq_false hbelow))
    · exact Bool.and_eq_false_iff.2 (.inr (decide_eq_false habove))

/-- No small letters of ASCII are left. -/
theorem isLower_of_mem_uppercase {s : String} {c : Char} (h : c ∈ (uppercase s).toList) : c.isLower = false := by
  rw [toList_uppercase, List.mem_map] at h
  obtain ⟨d, -, rfl⟩ := h
  exact isLower_toUpper d

def digit? (c : Char) : Option Nat :=
  if '0' ≤ c ∧ c ≤ '9' then some (c.toNat - '0'.toNat) else none

/-- The value of a hexadecimal digit of either case. -/
def hexDigit? (c : Char) : Option Nat :=
  if '0' ≤ c ∧ c ≤ '9' then some (c.toNat - '0'.toNat)
  else if 'a' ≤ c ∧ c ≤ 'f' then some (c.toNat - 'a'.toNat + 10)
  else if 'A' ≤ c ∧ c ≤ 'F' then some (c.toNat - 'A'.toNat + 10)
  else none

/-- The digits of a number in base sixteen, in small letters and without leading zeros. -/
def hexDigits (n : Nat) : List Char := Nat.toDigits 16 n

end CatalogGateway.Text
