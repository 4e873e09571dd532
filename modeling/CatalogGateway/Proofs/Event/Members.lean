import CatalogGateway.Event.Adapt
import CatalogGateway.Proofs.Encoding.Base64
import CatalogGateway.Proofs.Lists
import Mathlib.Tactic.Push

/-!
# The members of an event

Method, path and body of a request are read from members of the event, each by itself.  Each reading has its own condition,
under which it succeeds, and its own faults, for which it is refused (`Decided`); of readings one after the other, the
first to be refused tells why (`Decided.bind`).  Where there are several members for the same thing, the first that is
present counts (`FirstPresent`), even if it is blank.
-/

namespace CatalogGateway

/-- A reading succeeds if a condition holds, and is refused for a fault otherwise. -/
structure Decided {α : Type} (x : Except AdaptFailure α) (Holds : Prop) (Fault : AdaptError → Prop) : Prop where
  accepted : Holds → ∃ a, x = .ok a
  refused : ∀ error, Fault error → x = .error (.rejected error)
  total : Holds ∨ ∃ error, Fault error

namespace Decided

variable {α β : Type} {x : Except AdaptFailure α} {Holds Holds' : Prop} {Fault Fault' : AdaptError → Prop}

theorem accepted_iff (h : Decided x Holds Fault) : (∃ a, x = .ok a) ↔ Holds := by
  refine ⟨?_, h.accepted⟩
  rintro ⟨a, ha⟩
  refine h.total.resolve_right ?_
  rintro ⟨error, hfault⟩
  rw [h.refused error hfault] at ha
  cases ha

theorem refused_iff (h : Decided x Holds Fault) (failure : AdaptFailure) :
    x = .error failure ↔ ∃ error, failure = .rejected error ∧ Fault error := by
  constructor
  · intro hx
    rcases h.total with hholds | ⟨error, hfault⟩
    · obtain ⟨a, ha⟩ := h.accepted hholds
      rw [hx] at ha
      cases ha
    · have herror := h.refused error hfault
      rw [hx] at herror
      exact ⟨error, Except.error.inj herror, hfault⟩
  · rintro ⟨error, rfl, hfault⟩
    exact h.refused error hfault

theorem pure (a : α) : Decided (.ok a) True (fun _ => False) where
  accepted _ := ⟨a, rfl⟩
  refused _ := False.elim
  total := .inl trivial

/-- The second reading is refused only where the first has succeeded. -/
theorem bind {f : α → Except AdaptFailure β} (h : Decided x Holds Fault) (h' : ∀ a, Decided (f a) Holds' Fault') :
    Decided (x >>= f) (Holds ∧ Holds') (fun error => Fault error ∨ Holds ∧ Fault' error) where
  accepted := by
    rintro ⟨hholds, hholds'⟩
    obtain ⟨a, rfl⟩ := h.accepted hholds
    exact (h' a).accepted hholds'
  refused := by
    rintro error (hfault | ⟨hholds, hfault'⟩)
    · rw [h.refused error hfault]
      rfl
    · obtain ⟨a, rfl⟩ := h.accepted hholds
      exact (h' a).refused error hfault'
  total := by
    rcases h.total with hholds | ⟨error, hfault⟩
    · obtain ⟨a, -⟩ := h.accepted hholds
      exact (h' a).total.imp (⟨hholds, ·⟩) fun ⟨error, hfault'⟩ => ⟨error, .inr ⟨hholds, hfault'⟩⟩
    · exact .inr ⟨error, .inl hfault⟩

theorem congr (h : Decided x Holds Fault) (hholds : Holds ↔ Holds') (hfault : ∀ error, Fault error ↔ Fault' error) :
    Decided x Holds' Fault' := by
  obtain rfl : Fault = Fault' := funext fun error => propext (hfault error)
  obtain rfl : Holds = Holds' := propext hholds
  exact h

theorem ne_tooManyHeaders (h : Decided x Holds Fault) : x ≠ .error .tooManyHeaders := by
  intro hx
  obtain ⟨error, heq, -⟩ := (h.refused_iff _).1 hx
  cases heq

end Decided

/-- The first text that is present among the members of an event. -/
def FirstPresent (members : List (Option String)) (text : String) : Prop := FirstIn (· ≠ none) members (some text)

theorem firstPresent_iff {a b c : Option String} {text : String} :
    FirstPresent [a, b, c] text ↔ (a <|> b <|> c) = some text := by
  unfold FirstPresent
  cases a <;> cases b <;> cases c <;> simp [firstIn_cons, firstIn_nil, eq_comm]

namespace Event

variable {e : Event} {strip : Bool}

/-! ### Methods -/

/-- The members with the method, in the order in which they count. -/
def methodMembers (e : Event) : List (Option String) :=
  [e.requestContext.bind fun c => c.http.bind (·.method), e.httpMethod, e.requestContext.bind (·.httpMethod)]

/-- The event has a method, and it is a token. -/
def HasMethod (e : Event) : Prop :=
  ∃ text, FirstPresent e.methodMembers text ∧ Text.trim text ≠ "" ∧ isToken (Text.uppercase (Text.trim text)) = true

inductive MethodFault (e : Event) : AdaptError → Prop where
  | missing (h : ∀ text, FirstPresent e.methodMembers text → Text.trim text = "") : MethodFault e .missingMethod
  | invalid {text : String} (h : FirstPresent e.methodMembers text) (hne : Text.trim text ≠ "")
    (htoken : isToken (Text.uppercase (Text.trim text)) = false) : MethodFault e (.invalidMethod (Text.trim text))

theorem firstPresent_methodMembers {text : String} : FirstPresent e.methodMembers text ↔ e.methodText? = some text :=
  firstPresent_iff

theorem method_eq {text : String} (htext : e.methodText? = some text) : e.method =
    if Text.trim text = "" then .error (.rejected .missingMethod)
    else if h : isToken (Text.uppercase (Text.trim text)) = true then .ok ⟨Text.uppercase (Text.trim text), h⟩
    else .error (.rejected (.invalidMethod (Text.trim text))) := by
  unfold method Method.ofText?
  rw [htext, Option.map_some]
  generalize Text.trim text = trimmed
  split
  · contradiction
  · rename_i heq
    rw [if_pos (Option.some.inj heq)]
  · rename_i hne heq
    cases heq
    rw [if_neg hne]
    split_ifs <;> rfl

theorem decided_method (e : Event) : Decided e.method e.HasMethod e.MethodFault where
  accepted := by
    rintro ⟨text, h, hne, htoken⟩
    rw [method_eq (firstPresent_methodMembers.1 h), if_neg hne, dif_pos htoken]
    exact ⟨_, rfl⟩
  refused := by
    rintro _ (hmissing | ⟨h, hne, htoken⟩)
    · cases htext : e.methodText? with
      | none => simp [method, htext]
      | some text => rw [method_eq htext, if_pos (hmissing text (firstPresent_methodMembers.2 htext))]
    · rw [method_eq (firstPresent_methodMembers.1 h), if_neg hne, dif_neg (ne_true_of_eq_false htoken)]
  total := by
    by_cases hmissing : ∀ text, FirstPresent e.methodMembers text → Text.trim text = ""
    · exact .inr ⟨_, .missing hmissing⟩
    · push Not at hmissing
      obtain ⟨text, h, hne⟩ := hmissing
      cases htoken : isToken (Text.uppercase (Text.trim text)) with
      | false => exact .inr ⟨_, .invalid h hne htoken⟩
      | true => exact .inl ⟨text, h, hne, htoken⟩

/-! ### Paths -/

/-- The members with the path, in the order in which they count. -/
def pathMembers (e : Event) : List (Option String) :=
  [e.rawPath, e.path, e.requestContext.bind fun c => c.http.bind (·.path)]

/-- The path without the stage that is to be taken off it. -/
def withoutStage (e : Event) (strip : Bool) (raw : String) : String :=
  ((e.stageToStrip? strip).map (stripStage · raw)).getD raw

/-- The event has a path that starts with a slash and, in the format 2.0, percent-encodes a text behind the stage. -/
def HasPath (e : Event) (strip : Bool) : Prop :=
  ∃ raw, FirstPresent e.pathMembers raw ∧ raw.toList.head? = some '/' ∧
    (e.version = some "2.0" → ∃ path, Text.Utf8.encode path = Percent.octets (e.withoutStage strip raw).toList)

inductive PathFault (e : Event) (strip : Bool) : AdaptError → Prop where
  | missing (h : ∀ raw, FirstPresent e.pathMembers raw → raw = "") : PathFault e strip .missingPath
  | relative {raw : String} (h : FirstPresent e.pathMembers raw) (hne : raw ≠ "")
    (hhead : raw.toList.head? ≠ some '/') : PathFault e strip (.relativePath raw)
  | notText {raw : String} (h : FirstPresent e.pathMembers raw) (hhead : raw.toList.head? = some '/')
    (hversion : e.version = some "2.0")
    (hoctets : ∀ path, Text.Utf8.encode path ≠ Percent.octets (e.withoutStage strip raw).toList) :
    PathFault e strip (.pathNotText raw)

theorem firstPresent_pathMembers {raw : String} : FirstPresent e.pathMembers raw ↔ e.pathText? = some raw :=
  firstPresent_iff

theorem isVersion2_iff : e.isVersion2 = true ↔ e.version = some "2.0" := decide_eq_true_iff

theorem requestPath_eq {raw : String} (hraw : e.pathText? = some raw) : e.requestPath strip =
    if raw = "" then .error (.rejected .missingPath)
    else if raw.toList.head? = some '/' then
      if e.isVersion2 then
        match Percent.decode? (e.withoutStage strip raw) with
        | some decoded => .ok decoded
        | none => .error (.rejected (.pathNotText raw))
      else .ok (e.withoutStage strip raw)
    else .error (.rejected (.relativePath raw)) := by
  unfold requestPath
  rw [hraw]
  split
  · contradiction
  · rename_i heq
    rw [if_pos (Option.some.inj heq)]
  · rename_i hne heq
    cases heq
    rw [if_neg hne]
    rfl

/-- What becomes of a path that starts with a slash. -/
theorem requestPath_of_head? {raw : String} (hraw : e.pathText? = some raw) (hhead : raw.toList.head? = some '/') :
    e.requestPath strip =
      if e.isVersion2 then
        match Percent.decode? (e.withoutStage strip raw) with
        | some decoded => .ok decoded
        | none => .error (.rejected (.pathNotText raw))
      else .ok (e.withoutStage strip raw) := by
  have hne : raw ≠ "" := by
    rintro rfl
    cases hhead
  rw [requestPath_eq hraw, if_neg hne, if_pos hhead]

theorem decided_requestPath (e : Event) (strip : Bool) :
    Decided (e.requestPath strip) (e.HasPath strip) (e.PathFault strip) where
  accepted := by
    rintro ⟨raw, h, hhead, hoctets⟩
    rw [requestPath_of_head? (firstPresent_pathMembers.1 h) hhead]
    split_ifs with hversion
    · obtain ⟨path, hpath⟩ := hoctets (isVersion2_iff.1 hversion)
      have hdecode : Percent.decode? (e.withoutStage strip raw) = some path := by
        rw [Percent.decode?, ← hpath, Text.Utf8.decode?_encode]
      exact ⟨path, by rw [hdecode]⟩
    · exact ⟨_, rfl⟩
  refused := by
    rintro _ (hmissing | ⟨h, hne, hhead⟩ | ⟨h, hhead, hversion, hoctets⟩)
    · cases hraw : e.pathText? with
      | none => simp [requestPath, hraw]
      | some raw => rw [requestPath_eq hraw, if_pos (hmissing raw (firstPresent_pathMembers.2 hraw))]
    · rw [requestPath_eq (firstPresent_pathMembers.1 h), if_neg hne, if_neg hhead]
    · rw [requestPath_of_head? (firstPresent_pathMembers.1 h) hhead, if_pos (isVersion2_iff.2 hversion),
        Percent.decode?, Text.Utf8.decode?_eq_none_iff.2 hoctets]
  total := by
    by_cases hmissing : ∀ raw, FirstPresent e.pathMembers raw → raw = ""
    · exact .inr ⟨_, .missing hmissing⟩
    push Not at hmissing
    obtain ⟨raw, h, hne⟩ := hmissing
    by_cases hhead : raw.toList.head? = some '/'
    · by_cases hfault : e.version = some "2.0" ∧
          ∀ path, Text.Utf8.encode path ≠ Percent.octets (e.withoutStage strip raw).toList
      · exact .inr ⟨_, .notText h hhead hfault.1 hfault.2⟩
      · push Not at hfault
        exact .inl ⟨raw, h, hhead, hfault⟩
    · exact .inr ⟨_, .relative h hne hhead⟩

/-! ### Bodies -/

/-- The body of the event, if it is given in base64, is the text that is written for some octets. -/
def HasBody (e : Event) : Prop :=
  ∀ text, e.body = some text → e.isBase64Encoded = true → ∃ bytes, text = Base64.encodeText bytes

inductive BodyFault (e : Event) : AdaptError → Prop where
  | coding {text : String} {error : Base64.DecodeError} (hbody : e.body = some text) (hflag : e.isBase64Encoded = true)
    (herror : Base64.decode (Text.Utf8.encode text) = .error error) : BodyFault e (.invalidBody error)

theorem decided_requestBody (e : Event) : Decided e.requestBody e.HasBody e.BodyFault where
  accepted := by
    intro h
    unfold requestBody
    cases hbody : e.body with
    | none => exact ⟨_, rfl⟩
    | some text =>
      dsimp only
      split_ifs with hflag
      · obtain ⟨bytes, rfl⟩ := h text hbody hflag
        exact ⟨bytes, by rw [Base64.decode_encodeText]⟩
      · exact ⟨_, rfl⟩
  refused := by
    rintro _ ⟨hbody, hflag, herror⟩
    unfold requestBody
    rw [hbody]
    dsimp only
    rw [if_pos hflag, herror]
  total := by
    by_cases h : e.HasBody
    · exact .inl h
    · unfold HasBody at h
      push Not at h
      obtain ⟨text, hbody, hflag, hno⟩ := h
      cases hdecode : Base64.decode (Text.Utf8.encode text) with
      | error error => exact .inr ⟨_, .coding hbody hflag hdecode⟩
      | ok bytes => exact absurd (Base64.decode_utf8_eq_ok_iff.1 hdecode) (hno bytes)

end Event

end CatalogGateway
