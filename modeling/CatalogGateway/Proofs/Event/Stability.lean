import CatalogGateway.Proofs.Event.Payload
import CatalogGateway.Proofs.Json.Edits
import Mathlib.Logic.Relation

/-!
# Payloads of the same event

An event can be written in many ways: with members that nobody reads, with null for what it does not have, and with the
members in any order but for the headers, whose order an event keeps (`Event.Edit`).  Payloads that differ in such ways
are the same event (`Event.ofPayload_congr`), and so is what the event itself is written as (`payloads_stable`).
-/

namespace CatalogGateway

open Json (Reordered)
open Json.Record (Stable)
open Relation (EqvGen)

/-- One change to the part of a payload about the transport.  All its members may be null. -/
def EventHttp.Edit : Json → Json → Prop := record.Edit record.names []

theorem EventHttp.ofJson_ignores : ofJson.Ignores Edit := by
  refine Stable.ignores ?_ _
  refine (((Stable.optional ?_).map EventHttp.mk).seq (.optional ?_)).seq (.optional ?_) <;> simp

/-- One change to the part of a payload about the caller.  Its member may be null. -/
def EventIdentity.Edit : Json → Json → Prop := record.Edit record.names []

theorem EventIdentity.ofJson_ignores : ofJson.Ignores Edit := by
  refine Stable.ignores ?_ _
  exact (Stable.optional (by simp)).map EventIdentity.mk

/-- One change to the context of a payload, or inside a part of it.  All its members may be null. -/
def EventContext.Edit : Json → Json → Prop :=
  record.Edit record.names [("http", EventHttp.Edit), ("identity", EventIdentity.Edit)]

theorem EventContext.ofJson_ignores : ofJson.Ignores Edit := by
  have hhttp : (Json.decodeOption EventHttp.ofJson).Ignores EventHttp.Edit :=
    EventHttp.ofJson_ignores.option fun _ _ h => h.ne_null
  have hidentity : (Json.decodeOption EventIdentity.ofJson).Ignores EventIdentity.Edit :=
    EventIdentity.ofJson_ignores.option fun _ _ h => h.ne_null
  refine Stable.ignores ?_ _
  refine (((((Stable.optional ?_).map EventContext.mk).seq (.optional ?_)).seq (.optional ?_)).seq (.optional ?_)).seq
    (.optional ?_) <;>
    simp [hhttp, hidentity]

/-- One change to a payload.  The members of the headers stay in their order, and the flag for the encoding of the body
may not be null.  A value under a name that is not read is exchanged for another by taking the member out and putting it
in again. -/
def Event.Edit : Json → Json → Prop :=
  record.Edit (record.names.filter (· ≠ "isBase64Encoded"))
    [("queryStringParameters", Reordered), ("multiValueQueryStringParameters", Reordered),
      ("requestContext", EventContext.Edit)]

theorem Event.ofJson_ignores : ofJson.Ignores Edit := by
  have hquery : (Json.decodeOption (Json.decodeNameMap Json.decodeText)).Ignores Reordered :=
    (Json.decodeNameMap_ignores _).option fun _ _ h => h.ne_null
  have hmultiQuery : (Json.decodeOption (Json.decodeNameMap (Json.decodeList Json.decodeText))).Ignores Reordered :=
    (Json.decodeNameMap_ignores _).option fun _ _ h => h.ne_null
  have hcontext : (Json.decodeOption EventContext.ofJson).Ignores EventContext.Edit :=
    EventContext.ofJson_ignores.option fun _ _ h => h.ne_null
  refine Stable.ignores ?_ _
  refine ((((((((((((Stable.optional ?_).map Event.mk).seq (.optional ?_)).seq (.optional ?_)).seq (.optional ?_)).seq
    (.optional ?_)).seq (.optional ?_)).seq (.optional ?_)).seq (.optional ?_)).seq (.optional ?_)).seq (.optional ?_)).seq
    (.withDefault ?_ ?_)).seq (.optional ?_) <;>
    simp [hquery, hmultiQuery, hcontext]

/-- Payloads that come from each other by changes are the same event. -/
theorem Event.ofPayload_congr {payload payload' : Json} (h : EqvGen Edit payload payload') (e : Event) :
    ofPayload payload = .ok e ↔ ofPayload payload' = .ok e := by
  induction h with
  | rel payload payload' h => rw [ofPayload_eq_ok_iff, ofPayload_eq_ok_iff, ofJson_ignores payload payload' h]
  | refl payload => rfl
  | symm payload payload' _ ih => exact ih.symm
  | trans payload payload' payload'' _ _ ih ih' => exact ih.trans ih'

/-- The flag for the encoding of the body may be missing, but not null. -/
example : (Event.ofPayload (.object [])).isOk = true ∧
    (Event.ofPayload (.object [("isBase64Encoded", .null)])).isOk = false := by decide +kernel

/-- A payload that is accepted is the same event, and hands over the same request, after changes to what an event does
not see.  The event is found again in its JSON form and in the text of that, and then has the same text. -/
theorem payloads_stable {payload : Json} {e : Event} (h : Event.ofPayload payload = .ok e) :
    (∀ payload', EqvGen Event.Edit payload payload' → Event.ofPayload payload' = .ok e ∧
      ∀ strip, Event.requestOfPayload payload' strip = Event.requestOfPayload payload strip) ∧
    Json.parse? e.toJson.text = some e.toJson ∧ Event.ofPayload e.toJson = .ok e ∧
    ∀ e', Event.ofPayload e.toJson = .ok e' → e'.toJson.text = e.toJson.text := by
  refine ⟨fun payload' hedits => ?_, Json.parse?_text e.plain_toJson, e.ofPayload_toJson, fun e' he' => ?_⟩
  · have h' : Event.ofPayload payload' = .ok e := (Event.ofPayload_congr hedits e).1 h
    refine ⟨h', fun strip => ?_⟩
    rw [Event.requestOfPayload, Event.requestOfPayload, h, h']
  · rw [Except.ok.inj (e.ofPayload_toJson.symm.trans he')]

/-- A payload with its query in the other order. -/
def Sample.terseEvent : Json :=
  .object [("rawPath", .string "/trees"), ("queryStringParameters", .object [("b", .string "2"), ("a", .string "1")]),
    ("requestContext", .object [("http", .object [("method", .string "GET")])])]

/-- The same payload with a member that is not read, a member that is null, and others in another order. -/
def Sample.wordyEvent : Json :=
  .object [("headers", .null), ("queryStringParameters", .object [("a", .string "1"), ("b", .string "2")]),
    ("rawPath", .string "/trees"),
    ("requestContext", .object [("http", .object [("protocol", .string "HTTP/1.1"), ("method", .string "GET")])])]

/-- One payload comes from the other by a change inside the context, one inside the query, another order, and a new
member that is null. -/
theorem payloads_stable_wordy : EqvGen Event.Edit Sample.terseEvent Sample.wordyEvent ∧
    ∃ e, Event.ofPayload Sample.terseEvent = .ok e ∧ Event.ofPayload Sample.wordyEvent = .ok e ∧
      (∀ strip, Event.requestOfPayload Sample.wordyEvent strip = Event.requestOfPayload Sample.terseEvent strip) ∧
      Json.parse? e.toJson.text = some e.toJson := by
  have hprotocol : EventHttp.Edit (.object [("method", .string "GET")])
      (.object [("protocol", .string "HTTP/1.1"), ("method", .string "GET")]) :=
    .object (.unknown [] _ _ (by decide))
  have hcontext : EventContext.Edit (.object [("http", .object [("method", .string "GET")])])
      (.object [("http", .object [("protocol", .string "HTTP/1.1"), ("method", .string "GET")])]) :=
    .object (.inside [] [] (.head _) hprotocol)
  have hquery : Reordered (.object [("b", .string "2"), ("a", .string "1")])
      (.object [("a", .string "1"), ("b", .string "2")]) :=
    .intro (by decide) (.swap _ _ _)
  have hedits : EqvGen Event.Edit Sample.terseEvent Sample.wordyEvent := by
    refine .trans _ _ _ (.rel _ _ (.object (.inside [_, _] [] (.tail _ (.tail _ (.head _))) hcontext))) ?_
    refine .trans _ _ _ (.rel _ _ (.object (.inside [_] [_] (.head _) hquery))) ?_
    refine .trans _ _ _ (.rel _ _ (.object (.reordered (by decide) (.swap _ _ _)))) ?_
    exact .rel _ _ (.object (.null [] _ (by decide) (by decide)))
  obtain ⟨e, he⟩ := exists_eq_ok_of_isSome (x := Event.ofPayload Sample.terseEvent) (by decide +kernel)
  obtain ⟨hstable, htext, -⟩ := payloads_stable he
  obtain ⟨he', hrequest⟩ := hstable Sample.wordyEvent hedits
  exact ⟨hedits, e, he, he', hrequest, htext⟩

end CatalogGateway
