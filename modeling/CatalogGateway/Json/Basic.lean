import CatalogGateway.Number.Binary64

/-!
# JSON values

JSON values whose objects keep their members in the order in which they were written.  A number is an integer or a
binary floating-point value: a numeral without fraction and exponent is an integer as long as it fits 64 bits.
-/

namespace CatalogGateway

inductive Json.Number where
  | integer (n : Int)
  | real (x : Binary64)
deriving DecidableEq, Repr

inductive Json where
  | null
  | bool (b : Bool)
  | number (n : Json.Number)
  | string (s : String)
  | array (items : List Json)
  | object (members : List (String × Json))
deriving Inhabited

namespace Json

abbrev int (n : Int) : Json := .number (.integer n)

abbrev nat (n : Nat) : Json := int n

def strings (l : List String) : Json := .array (l.map .string)

/-- The member of a name, left out if it has no value. -/
def present {α : Type} (name : String) (toJson : α → Json) (value : Option α) : List (String × Json) :=
  (value.map fun a => (name, toJson a)).toList

/-- The object with a member for each entry. -/
def ofEntries {α : Type} (toJson : α → Json) (entries : List (String × α)) : Json :=
  .object (entries.map fun e => (e.1, toJson e.2))

/-- The members with a value written under a name: in place of the member of that name, or at the end. -/
def write (name : String) (value : Json) : List (String × Json) → List (String × Json)
  | [] => [(name, value)]
  | (k, v) :: rest => if k = name then (k, value) :: rest else (k, v) :: write name value rest

theorem lookup_write_self (name : String) (value : Json) (l : List (String × Json)) :
    (write name value l).lookup name = some value := by
  induction l with
  | nil => simp [write]
  | cons head rest ih =>
    obtain ⟨k, v⟩ := head
    by_cases h : k = name
    · simp [write, h]
    · simp [write, h, List.lookup_cons, beq_eq_false_iff_ne.2 (Ne.symm h), ih]

theorem lookup_write_ne {name other : String} (h : other ≠ name) (value : Json) (l : List (String × Json)) :
    (write name value l).lookup other = l.lookup other := by
  induction l with
  | nil => simp [write, List.lookup_cons, beq_eq_false_iff_ne.2 h]
  | cons head rest ih =>
    obtain ⟨k, v⟩ := head
    by_cases hk : k = name
    · subst hk
      simp [write, List.lookup_cons, beq_eq_false_iff_ne.2 h]
    · simp only [write, hk, if_false, List.lookup_cons, ih]

end Json

end CatalogGateway
