import CatalogGateway.Proofs.Event.Formats
import CatalogGateway.Proofs.Text.Utf8

/-!
# Paths of requests

What becomes of the path of an event that is acceptable besides.  A percent-encoded path is decoded once, behind the
stage that is taken off it or without one, and only a whole segment is a stage; a path in the format 1.0 stays as it is;
and all paths of requests are rooted (`paths_adapted`).
-/

namespace CatalogGateway

/-! ### Stages -/

section

variable {stage : String}

theorem stripStage_self (hne : stage ≠ "") (hdefault : stage ≠ "$default") : stripStage stage ("/" ++ stage) = "/" := by
  have hprefix : ('/' :: stage.toList).isPrefixOf? ("/" ++ stage).toList = some [] := by
    rw [List.isPrefixOf?_eq_some_iff_append_eq, List.append_nil, String.toList_append]
    rfl
  unfold stripStage
  rw [if_neg (not_or.2 ⟨hne, hdefault⟩), hprefix]

/-- A path that does not have the stage for its first segment is not shortened. -/
theorem stripStage_of_other {path : String} (hself : path ≠ "/" ++ stage)
    (hsegment : ¬ ("/" ++ stage ++ "/").toList <+: path.toList) : stripStage stage path = path := by
  unfold stripStage
  split
  · rfl
  · split
    · rename_i hprefix
      refine absurd ?_ hself
      rw [List.isPrefixOf?_eq_some_iff_append_eq, List.append_nil] at hprefix
      rw [← String.toList_inj, ← hprefix, String.toList_append]
      rfl
    · rename_i rest hprefix
      refine absurd ⟨rest, ?_⟩ hsegment
      rw [List.isPrefixOf?_eq_some_iff_append_eq] at hprefix
      rw [← hprefix, String.toList_append, String.toList_append, List.append_assoc]
      rfl
    · rfl

theorem head?_stripStage {path : String} (h : path.toList.head? = some '/') (stage : String) :
    (stripStage stage path).toList.head? = some '/' := by
  unfold stripStage
  split
  · exact h
  · split
    · decide
    · rw [String.toList_ofList, List.head?_cons]
    · exact h

end

/-- Decoding leaves the slash at the front. -/
theorem Percent.head?_of_decode? {text path : String} (h : Percent.decode? text = some path)
    (hhead : text.toList.head? = some '/') : path.toList.head? = some '/' := by
  obtain ⟨rest, hrest⟩ := List.head?_eq_some_iff.1 hhead
  have hoctets := Text.Utf8.encode_of_decode? h
  rw [hrest, Percent.octets_of_ne (by decide)] at hoctets
  -- the first character that the octets spell is that of both
  have hslash := Text.Utf8.head?_encodeChar '/' (Percent.octets rest)
  rw [← hoctets] at hslash
  unfold Text.Utf8.encode at hslash
  cases hpath : path.toList with
  | nil =>
    rw [hpath] at hslash
    exact absurd hslash (by decide)
  | cons c more =>
    rw [hpath, List.flatMap_cons, Text.Utf8.head?_encodeChar] at hslash
    rw [List.head?_cons, hslash]

namespace Event

/-- Everything but the path can be read from the event. -/
structure AcceptableBesidesPath (e : Event) : Prop where
  method : ∃ method, e.method = .ok method
  headers : ∃ headers, e.requestHeaders = .ok headers
  body : ∃ body, e.requestBody = .ok body

/-- The event is accepted, as a request for the path. -/
def AdaptsTo (e : Event) (strip : Bool) (path : String) : Prop := ∃ r, e.toRequest strip = .ok r ∧ r.path = path

variable {e : Event} {strip : Bool} {path : String}

theorem requestPath_of_adaptsTo (h : e.AdaptsTo strip path) : e.requestPath strip = .ok path := by
  obtain ⟨r, hr, rfl⟩ := h
  exact (toRequest_eq_ok_iff.1 hr).path

theorem AcceptableBesidesPath.adaptsTo_iff (h : e.AcceptableBesidesPath) :
    e.AdaptsTo strip path ↔ e.requestPath strip = .ok path := by
  refine ⟨requestPath_of_adaptsTo, fun hpath => ?_⟩
  obtain ⟨method, hmethod⟩ := h.method
  obtain ⟨headers, hheaders⟩ := h.headers
  obtain ⟨body, hbody⟩ := h.body
  refine ⟨⟨method, path, headers, e.query, body, e.requestId, e.sourceIp?⟩, ?_, rfl⟩
  exact toRequest_eq_ok_iff.2 ⟨hmethod, hpath, hheaders, rfl, hbody, rfl, rfl⟩

/-- The text of a path that is read starts with a slash. -/
theorem exists_of_requestPath_eq_ok (h : e.requestPath strip = .ok path) :
    ∃ raw, e.pathText? = some raw ∧ raw.toList.head? = some '/' := by
  obtain ⟨raw, hraw, hhead, -⟩ := (e.decided_requestPath strip).accepted_iff.1 ⟨path, h⟩
  exact ⟨raw, firstPresent_pathMembers.1 hraw, hhead⟩

/-- Where there is a stage to be taken off, what is left of the path is decoded. -/
theorem requestPath_eq_ok_iff {raw stage : String} (hversion : e.version = some "2.0") (hraw : e.rawPath = some raw)
    (hstage : e.requestContext.bind (·.stage) = some stage) : e.requestPath true = .ok path ↔
      raw.toList.head? = some '/' ∧ Percent.decode? (stripStage stage raw) = some path := by
  have hread : raw.toList.head? = some '/' →
      (e.requestPath true = .ok path ↔ Percent.decode? (stripStage stage raw) = some path) := by
    intro hhead
    rw [requestPath_eq_ok_iff_of_version2 hversion hraw hhead, withoutStage, stageToStrip?_of_version2 hversion hraw,
      if_pos rfl, hstage]
    rfl
  constructor
  · intro h
    obtain ⟨raw', hraw', hhead⟩ := exists_of_requestPath_eq_ok h
    have htext : e.pathText? = some raw := by simp [pathText?, hraw]
    obtain rfl : raw = raw' := Option.some.inj (htext.symm.trans hraw')
    exact ⟨hhead, (hread hhead).1 h⟩
  · rintro ⟨hhead, hdecode⟩
    exact (hread hhead).2 hdecode

/-- The stage by itself is the root, and without the stage at its front a path is only decoded. -/
theorem requestPath_of_stage {raw stage : String} (hversion : e.version = some "2.0") (hraw : e.rawPath = some raw)
    (hstage : e.requestContext.bind (·.stage) = some stage) (hne : stage ≠ "") (hdefault : stage ≠ "$default") :
    (raw = "/" ++ stage → e.requestPath true = .ok "/") ∧
    (raw ≠ "/" ++ stage → ¬ ("/" ++ stage ++ "/").toList <+: raw.toList →
      ∀ path, e.requestPath true = .ok path ↔ raw.toList.head? = some '/' ∧ Percent.decode? raw = some path) := by
  refine ⟨?_, fun hself hsegment path => ?_⟩
  · rintro rfl
    rw [requestPath_eq_ok_iff hversion hraw hstage, stripStage_self hne hdefault]
    exact ⟨by simp, decode?_of_encodesPath ⟨[], [], by decide, by decide, .nil⟩⟩
  · rw [requestPath_eq_ok_iff hversion hraw hstage, stripStage_of_other hself hsegment]

/-- The path of a request starts with a slash. -/
theorem head?_of_requestPath (h : e.requestPath strip = .ok path) : path.toList.head? = some '/' := by
  obtain ⟨raw, hraw, hhead⟩ := exists_of_requestPath_eq_ok h
  have hleft : (e.withoutStage strip raw).toList.head? = some '/' := by
    unfold withoutStage
    cases e.stageToStrip? strip with
    | none => exact hhead
    | some stage => exact head?_stripStage hhead stage
  rw [requestPath_of_head? hraw hhead] at h
  split at h
  · split at h
    · rename_i hdecode
      cases h
      exact Percent.head?_of_decode? hdecode hleft
    · cases h
  · cases h
    exact hleft

end Event

/-- The path of an event that is acceptable besides.  In the format 2.0, a percent-encoded path is decoded, whether the
stage is to be taken off and stands in front of it, or there is none to be taken off; the stage by itself is the root, and
a path in which it is not the first segment is decoded as it is.  In other formats a path is not changed.  The path of a
request always starts with a slash. -/
theorem paths_adapted (e : Event) :
    (e.AcceptableBesidesPath →
      (e.version = some "2.0" →
        (∀ strip path, e.CarriesPath strip path → e.AdaptsTo strip path) ∧
        ∀ raw stage, e.rawPath = some raw → e.requestContext.bind (·.stage) = some stage → stage ≠ "" →
          stage ≠ "$default" →
            (raw = "/" ++ stage → e.AdaptsTo true "/") ∧
            (raw ≠ "/" ++ stage → ¬ ("/" ++ stage ++ "/").toList <+: raw.toList →
              ∀ path, e.AdaptsTo true path ↔ raw.toList.head? = some '/' ∧ Percent.decode? raw = some path)) ∧
      (e.version ≠ some "2.0" → ∀ path, e.pathText? = some path → path.toList.head? = some '/' →
        ∀ strip, e.AdaptsTo strip path)) ∧
    ∀ strip path, e.AdaptsTo strip path → path.toList.head? = some '/' := by
  refine ⟨fun h => ?_, fun strip path hpath => Event.head?_of_requestPath (Event.requestPath_of_adaptsTo hpath)⟩
  simp only [h.adaptsTo_iff]
  refine ⟨fun hversion => ⟨fun strip path hcarries => ?_, fun raw stage hraw hstage hne hdefault => ?_⟩,
    fun hversion path hpath hhead strip => ?_⟩
  · exact Event.requestPath_of_carries hversion hcarries
  · exact Event.requestPath_of_stage hversion hraw hstage hne hdefault
  · exact Event.requestPath_of_not_version2 hversion hpath hhead

namespace Sample

/-- An event in the format 2.0 with a path and a stage. -/
def stagedEvent (raw : String) : Event :=
  { version := some "2.0", rawPath := some raw,
    requestContext := some { stage := some "prod", http := some { method := some "GET" } } }

theorem stagedEvent_acceptable (raw : String) : (stagedEvent raw).AcceptableBesidesPath := by
  have hmethod : (stagedEvent raw).method = .ok Method.get := rfl
  have hroom : headerSlots 0 ≤ maxHeaderSlots := by decide
  have hheaders : (stagedEvent raw).requestHeaders = .ok {} := Event.requestHeaders_eq_ok_iff.2 ⟨hroom, rfl⟩
  exact ⟨⟨_, hmethod⟩, ⟨_, hheaders⟩, ⟨_, rfl⟩⟩

end Sample

/-- A stage in front of an encoded path is taken off it, the stage by itself is the root, and a longer segment that starts
like the stage is none. -/
theorem paths_adapted_staged :
    (Sample.stagedEvent "/prod/a%20b").AdaptsTo true "/a b" ∧ (Sample.stagedEvent "/prod").AdaptsTo true "/" ∧
      (Sample.stagedEvent "/products%2f1").AdaptsTo true "/products/1" := by
  have hpath : Event.EncodesPath "/a b" "/a%20b" := by
    have henc : Percent.Encodes [' ', 'b'] (['%', '2', '0'] ++ ['b']) :=
      .escaped (.cons (h := 2) (l := 0) rfl rfl rfl .nil) (.kept (by decide) .nil)
    exact ⟨['a', ' ', 'b'], ['a', '%', '2', '0', 'b'], by decide, by decide, .kept (by decide) henc⟩
  have hdecode : Percent.decode? "/products%2f1" = some "/products/1" := by decide +kernel
  have hmust := fun raw => (paths_adapted (Sample.stagedEvent raw)).1 (Sample.stagedEvent_acceptable raw)
  have hstage := fun raw => ((hmust raw).1 rfl).2 raw "prod" rfl rfl (by decide) (by decide)
  refine ⟨((hmust _).1 rfl).1 true "/a b" ?_, (hstage _).1 (by decide), ?_⟩
  · exact .staged hpath (by decide) rfl (by decide) (by decide) rfl
  · exact ((hstage _).2 (by decide) (by decide) _).2 ⟨by decide, hdecode⟩

end CatalogGateway
