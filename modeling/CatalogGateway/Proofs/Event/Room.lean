import CatalogGateway.Proofs.Event.Merging
import CatalogGateway.Proofs.Event.Payload
import Mathlib.Data.Finset.Card

/-!
# Room for the headers of a request

A header table has room for 24576 names (`maxHeaderSlots_lt_headerSlots`).  An event can have more, and then its reading
is broken off: exactly if method and path of the request could be read and the event has more header names than that, no
matter in which members and letter cases it gives them (`Event.requestOfPayload_eq_tooManyHeaders`).
-/

namespace CatalogGateway

/-! ### The table -/

theorem powerOfTwoFrom_le (n k : Nat) : powerOfTwoFrom n ≤ Nat.pow 2 k ↔ n ≤ Nat.pow 2 k := by
  have hpos : 0 < Nat.pow 2 k := Nat.pow_pos (by decide)
  unfold powerOfTwoFrom
  by_cases hn : n ≤ 1
  · rw [if_pos hn]
    omega
  · have hlog : (n - 1).log2 < k ↔ n - 1 < Nat.pow 2 k := Nat.log2_lt (by omega)
    have hpow : Nat.pow 2 ((n - 1).log2 + 1) ≤ Nat.pow 2 k ↔ (n - 1).log2 + 1 ≤ k :=
      Nat.pow_le_pow_iff_right (by decide)
    rw [if_neg hn]
    omega

theorem maxHeaderSlots_lt_headerSlots (names : Nat) : maxHeaderSlots < headerSlots names ↔ 24576 < names := by
  have hle := powerOfTwoFrom_le (names + names / 3) 15
  have hmax : Nat.pow 2 15 = maxHeaderSlots := rfl
  rw [hmax] at hle
  unfold headerSlots
  unfold maxHeaderSlots at *
  omega

/-! ### Events that are not read through -/

namespace Event

/-- There is a group of merged headers for every name. -/
theorem length_mergedHeaders (e : Event) : e.mergedHeaders.length = e.headerNames.toFinset.card := by
  have hnames : (e.mergedHeaders.map (·.1)).toFinset = e.headerNames.toFinset := by
    ext name
    rw [List.mem_toFinset, List.mem_toFinset, e.mem_mergedHeaders]
  rw [← hnames, List.toFinset_card_of_nodup e.tidy_mergedHeaders.nodup, List.length_map]

/-- The event has a method and a path, and more header names than there is room for. -/
structure Crowded (e : Event) (strip : Bool) : Prop where
  method : ∃ method, e.method = .ok method
  path : ∃ path, e.requestPath strip = .ok path
  names : 24576 < e.headerNames.toFinset.card

theorem headerField_ne_tooManyHeaders (h : String × List String) : headerField h ≠ .error .tooManyHeaders := by
  unfold headerField
  split
  · nofun
  · split <;> nofun

theorem requestHeaders_eq_tooManyHeaders (e : Event) :
    e.requestHeaders = .error .tooManyHeaders ↔ 24576 < e.headerNames.toFinset.card := by
  rw [← e.length_mergedHeaders, ← maxHeaderSlots_lt_headerSlots]
  unfold requestHeaders
  dsimp only
  split
  · rename_i hroom
    exact ⟨fun _ => hroom, fun _ => rfl⟩
  · rename_i hroom
    refine ⟨fun h => ?_, fun h => absurd h hroom⟩
    cases hfields : e.mergedHeaders.mapM headerField with
    | ok fields =>
      rw [hfields] at h
      cases h
    | error failure =>
      rw [hfields] at h
      cases h
      obtain ⟨group, -, hgroup⟩ := exists_of_mapM_eq_error hfields
      exact absurd hgroup (headerField_ne_tooManyHeaders group)

theorem toRequest_eq_tooManyHeaders (e : Event) (strip : Bool) :
    e.toRequest strip = .error .tooManyHeaders ↔ e.Crowded strip := by
  unfold toRequest
  -- of the members, which are read in this order, only the headers can be too many
  simp only [bind_eq_error_iff, pure, Except.pure, (decided_method e).ne_tooManyHeaders,
    (decided_requestPath e strip).ne_tooManyHeaders, (decided_requestBody e).ne_tooManyHeaders,
    requestHeaders_eq_tooManyHeaders, reduceCtorEq, false_or, and_false, exists_false, or_false]
  constructor
  · rintro ⟨method, hmethod, path, hpath, hnames⟩
    exact ⟨⟨method, hmethod⟩, ⟨path, hpath⟩, hnames⟩
  · rintro ⟨⟨method, hmethod⟩, ⟨path, hpath⟩, hnames⟩
    exact ⟨method, hmethod, path, hpath, hnames⟩

/-- A payload is not read through if it is an event with too many header names. -/
theorem requestOfPayload_eq_tooManyHeaders (payload : Json) (strip : Bool) :
    requestOfPayload payload strip = .error .tooManyHeaders ↔ ∃ e, ofJson payload = .ok e ∧ e.Crowded strip := by
  have hevent : ofPayload payload ≠ .error .tooManyHeaders := by
    unfold ofPayload
    cases ofJson payload <;> simp
  unfold requestOfPayload
  simp only [bind_eq_error_iff, hevent, ofPayload_eq_ok_iff, toRequest_eq_tooManyHeaders, false_or]

end Event

end CatalogGateway
