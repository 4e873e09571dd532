import CatalogGateway.Proofs.Entrypoint.Invocation
import CatalogGateway.Proofs.Event.Payload
import CatalogGateway.Proofs.Event.Room

/-!
# Invocations that break off

With a context, an invocation is answered and leaves the phase `warm`, unless its payload is an event with more header
names than a table has room for: then it crashes, and the phase stays `handling` (`invoke_breaks_off`).  Nothing before
the handler contains that crash.
-/

namespace CatalogGateway

namespace Entrypoint

variable {e : Entrypoint} {factory : FactoryRun AppContext} {s : Instance} {i : Invocation} {context : AppContext}

theorem invoke_of_crowded (hc : s.Provides factory context) {event : Event} (hevent : Event.ofJson i.payload = .ok event)
    (hcrowded : event.Crowded e.stripStage) :
    (e.invoke factory s i).value.1 = .crashed tooManyHeadersMessage ∧ (e.invoke factory s i).value.2.phase = .handling ∧
      (e.invoke factory s i).value.2.context? = some context := by
  have hread : Event.requestOfPayload i.payload e.stripStage = .error .tooManyHeaders :=
    (Event.requestOfPayload_eq_tooManyHeaders ..).2 ⟨event, hevent, hcrowded⟩
  obtain ⟨cache, hcache, hinvoke⟩ := exists_value_invoke hc
  rw [hinvoke, value_handle_of_tooManyHeaders hread]
  exact ⟨rfl, rfl, hcache⟩

theorem invoke_of_not_crowded (hc : s.Provides factory context)
    (hread : Event.requestOfPayload i.payload e.stripStage ≠ .error .tooManyHeaders) :
    (∃ envelope, (e.invoke factory s i).value.1 = .answered envelope) ∧ (e.invoke factory s i).value.2.phase = .warm ∧
      (e.invoke factory s i).value.2.context? = some context := by
  obtain ⟨response, hr⟩ := exists_value_handle context .handling hread
  obtain ⟨cache, hcache, hinvoke⟩ := exists_value_invoke hc
  rw [hinvoke, hr]
  exact ⟨⟨_, rfl⟩, rfl, hcache⟩

end Entrypoint

/-- An invocation with a context breaks off exactly if its event has method, path and too many header names; every
other one is answered.  The context stays in any case. -/
theorem invoke_breaks_off (e : Entrypoint) (factory : FactoryRun AppContext) (s : Instance) (i : Invocation)
    (context : AppContext) (hc : s.Provides factory context) :
    let taken := (e.invoke factory s i).value
    ((∃ event, Event.ofJson i.payload = .ok event ∧ event.Crowded e.stripStage) →
      taken.1 = .crashed tooManyHeadersMessage ∧ taken.2.phase = .handling) ∧
    ((¬ ∃ event, Event.ofJson i.payload = .ok event ∧ event.Crowded e.stripStage) →
      (∃ envelope, taken.1 = .answered envelope) ∧ taken.2.phase = .warm) ∧
    taken.2.context? = some context := by
  intro taken
  by_cases hcrowded : ∃ event, Event.ofJson i.payload = .ok event ∧ event.Crowded e.stripStage
  · obtain ⟨event, hevent, hevent'⟩ := hcrowded
    obtain ⟨hcrashed, hphase, hcontext⟩ := Entrypoint.invoke_of_crowded hc hevent hevent'
    exact ⟨fun _ => ⟨hcrashed, hphase⟩, fun hnot => absurd ⟨event, hevent, hevent'⟩ hnot, hcontext⟩
  · have hread := mt (Event.requestOfPayload_eq_tooManyHeaders i.payload e.stripStage).1 hcrowded
    obtain ⟨hanswered, hphase, hcontext⟩ := Entrypoint.invoke_of_not_crowded hc hread
    exact ⟨fun h => absurd h hcrowded, fun _ => ⟨hanswered, hphase⟩, hcontext⟩

/-! ### A crowd -/

namespace Sample

/-- So many header fields with different names. -/
def numberedFields (n : Nat) : List (String × String) := (List.range n).map fun k => ("x-" ++ k.repr, "v")

private theorem toLower_of_isDigit {c : Char} (h : c.isDigit = true) : c.toLower = c := by
  refine toLower_of_not_capital ?_
  obtain ⟨-, hnine⟩ := Char.isDigit_iff_toNat.1 h
  have hcapital : '9'.toNat < 'A'.toNat := by decide
  rintro ⟨hge, -⟩
  have hge : 'A'.toNat ≤ c.toNat := hge
  omega

theorem lowercase_numbered (k : Nat) : Text.lowercase ("x-" ++ k.repr) = "x-" ++ k.repr := by
  have hdigits : (Nat.toDigits 10 k).map Char.toLower = Nat.toDigits 10 k := by
    refine (List.map_congr_left fun c hc => ?_).trans (List.map_id _)
    exact toLower_of_isDigit (Nat.isDigit_of_mem_toDigits (by decide) (by decide) hc)
  have hrepr : k.repr.toList = Nat.toDigits 10 k := by rw [Nat.repr_eq_ofList_toDigits, String.toList_ofList]
  rw [← String.toList_inj, Text.toList_lowercase, String.toList_append, List.map_append, hrepr, hdigits]
  rfl

theorem fieldNames_numberedFields (n : Nat) :
    fieldNames (numberedFields n) = (List.range n).map fun k => "x-" ++ k.repr := by
  unfold fieldNames numberedFields
  rw [List.map_map]
  exact List.map_congr_left fun k _ => lowercase_numbered k

theorem nodup_numberedFields (n : Nat) : (fieldNames (numberedFields n)).Nodup := by
  rw [fieldNames_numberedFields]
  refine List.nodup_range.map fun k k' h => ?_
  have hlists := congrArg String.toList h
  simp only [String.toList_append, Nat.repr_eq_ofList_toDigits, String.toList_ofList] at hlists
  have hnumber := congrArg (fun digits => Nat.ofDigitChars 10 digits 0) (List.append_cancel_left hlists)
  simpa using hnumber

def numberedEvent (n : Nat) : Event where
  httpMethod := some "GET"
  path := some "/health"
  headers := some (numberedFields n)

theorem headerNames_numberedEvent (n : Nat) : (numberedEvent n).headerNames = fieldNames (numberedFields n) := by
  show [] ++ fieldNames (numberedFields n) ++ [] = fieldNames (numberedFields n)
  rw [List.append_nil, List.nil_append]

theorem crowded_numberedEvent {n : Nat} (h : 24576 < n) (strip : Bool) : (numberedEvent n).Crowded strip := by
  constructor
  case method => exact ⟨.get, rfl⟩
  case path => exact ⟨"/health", by cases strip <;> rfl⟩
  case names =>
    rw [headerNames_numberedEvent, List.toFinset_card_of_nodup (nodup_numberedFields n), fieldNames_numberedFields,
      List.length_map, List.length_range]
    exact h

/-- An invocation with one header name more than there is room for. -/
def crowdedInvocation : Invocation := { payload := (numberedEvent 24577).toJson, requestId := "crowded" }

end Sample

/-- An invocation with a context need not be answered. -/
theorem not_every_invocation_answered :
    ¬ ∀ (e : Entrypoint) (factory : FactoryRun AppContext) (s : Instance) (i : Invocation) (context : AppContext),
      s.Provides factory context →
        (∃ envelope, (e.invoke factory s i).value.1 = .answered envelope) ∧ (e.invoke factory s i).value.2.phase = .warm := by
  intro hall
  have hc : Instance.Provides {} ⟨.ready Sample.slowContext, []⟩ Sample.slowContext := .inr ⟨rfl, rfl⟩
  obtain ⟨-, hwarm⟩ := hall {} _ {} Sample.crowdedInvocation Sample.slowContext hc
  obtain ⟨-, hhandling, -⟩ := Entrypoint.invoke_of_crowded (e := {}) (i := Sample.crowdedInvocation) hc
    (Sample.numberedEvent 24577).ofJson_toJson (Sample.crowded_numberedEvent (by decide) _)
  rw [hwarm] at hhandling
  cases hhandling

/-- The invocation with one header name too many crashes and leaves the phase as it is. -/
theorem invoke_breaks_off_crowdedInvocation :
    Instance.Provides {} ⟨.ready Sample.slowContext, []⟩ Sample.slowContext ∧
    (({} : Entrypoint).invoke ⟨.ready Sample.slowContext, []⟩ {} Sample.crowdedInvocation).value.1 =
      .crashed "size overflows MAX_SIZE: MaxSizeReached" ∧
    (({} : Entrypoint).invoke ⟨.ready Sample.slowContext, []⟩ {} Sample.crowdedInvocation).value.2.phase = .handling := by
  have hc : Instance.Provides {} ⟨.ready Sample.slowContext, []⟩ Sample.slowContext := .inr ⟨rfl, rfl⟩
  obtain ⟨hbroken, -⟩ := invoke_breaks_off {} ⟨.ready Sample.slowContext, []⟩ {} Sample.crowdedInvocation
    Sample.slowContext hc
  exact ⟨hc, hbroken ⟨_, (Sample.numberedEvent 24577).ofJson_toJson, Sample.crowded_numberedEvent (by decide) _⟩⟩

end CatalogGateway
