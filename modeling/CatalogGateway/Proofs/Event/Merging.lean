import CatalogGateway.Proofs.Answer.Envelope
import CatalogGateway.Proofs.Event.Message
import Mathlib.Logic.Relation

/-!
# The values of a header

An event can give a header several times, in two members and in any letter case, and the cookies besides.  What the
request has for a name are the values that the event gives it (`Event.lookup_mergedHeaders`), put together to one
(`headers_merged`), and the names are merged in the order in which the event first has them
(`Event.map_fst_mergedHeaders`).  Whoever writes the event is free to choose letter cases, to order entries of different
names, and to mirror headers or not (`Event.Rewritten`).
-/

namespace CatalogGateway

/-- The values of the entries that have a name in any letter case, in their order. -/
def valuesNamed {α : Type} (name : String) (entries : List (String × α)) : List α :=
  (entries.filter fun h => Text.lowercase h.1 = name).map (·.2)

section

variable {α : Type} {name : String}

theorem valuesNamed_cons (h : String × α) (rest : List (String × α)) : valuesNamed name (h :: rest) =
    if Text.lowercase h.1 = name then h.2 :: valuesNamed name rest else valuesNamed name rest := by
  by_cases hname : Text.lowercase h.1 = name <;> simp [valuesNamed, hname]

@[simp] theorem valuesNamed_append (before after : List (String × α)) :
    valuesNamed name (before ++ after) = valuesNamed name before ++ valuesNamed name after := by
  simp [valuesNamed]

theorem valuesNamed_ne_nil_iff {entries : List (String × α)} :
    valuesNamed name entries ≠ [] ↔ name ∈ entries.map fun h => Text.lowercase h.1 := by
  simp [valuesNamed]

end

/-! ### Merging -/

theorem lookup_addValues_self (name : String) (values : List String) (m : MergedHeaders) :
    (addValues name values m).lookup name = some ((m.lookup name).getD [] ++ values) := by
  induction m with
  | nil => simp [addValues]
  | cons group rest ih =>
    rw [addValues]
    split
    · rename_i hname
      simp [lookup_cons_eq_ite, hname]
    · rename_i hname
      simp [lookup_cons_eq_ite, Ne.symm hname, ih]

theorem lookup_addValues_ne {name other : String} (h : other ≠ name) (values : List String) (m : MergedHeaders) :
    (addValues name values m).lookup other = m.lookup other := by
  induction m with
  | nil => simp [addValues, lookup_cons_eq_ite, h]
  | cons group rest ih =>
    rw [addValues]
    split
    · rename_i hname
      simp [lookup_cons_eq_ite, hname, h]
    · rw [lookup_cons_eq_ite, lookup_cons_eq_ite, ih]

theorem lookup_foldl_addValues {α : Type} (values : α → List String) (entries : List (String × α)) (m : MergedHeaders)
    (name : String) :
    (entries.foldl (fun m h => addValues (Text.lowercase h.1) (values h.2) m) m).lookup name =
      if valuesNamed name entries = [] then m.lookup name
      else some ((m.lookup name).getD [] ++ (valuesNamed name entries).flatMap values) := by
  induction entries generalizing m with
  | nil => rfl
  | cons h rest ih =>
    rw [List.foldl_cons, ih]
    by_cases hname : Text.lowercase h.1 = name
    · rw [valuesNamed_cons, if_pos hname, hname, lookup_addValues_self]
      by_cases hrest : valuesNamed name rest = [] <;> simp [hrest]
    · rw [valuesNamed_cons, if_neg hname, lookup_addValues_ne (Ne.symm hname)]

/-- Values of a name are put to those of the same name, or behind all. -/
theorem eraseDups_names_addValues (name : String) (values : List String) (m : MergedHeaders) :
    ((addValues name values m).map (·.1)).eraseDups = (m.map (·.1) ++ [name]).eraseDups := by
  rw [map_fst_addValues]
  split
  · rename_i hmem
    rw [← List.append_nil (m.map (·.1))]
    refine (eraseDups_append_congr (by rw [List.append_nil]) ?_).symm
    simp [hmem]
  · rfl

theorem eraseDups_names_foldl {α : Type} (values : α → List String) (entries : List (String × α)) (m : MergedHeaders) :
    ((entries.foldl (fun m h => addValues (Text.lowercase h.1) (values h.2) m) m).map (·.1)).eraseDups =
      (m.map (·.1) ++ entries.map fun h => Text.lowercase h.1).eraseDups := by
  induction entries generalizing m with
  | nil => rw [List.foldl_nil, List.map_nil, List.append_nil]
  | cons h rest ih =>
    rw [List.foldl_cons, ih, eraseDups_append_congr (eraseDups_names_addValues _ _ m) rfl, List.map_cons,
      List.append_assoc, List.singleton_append]

namespace Event

/-- The header names that an event has, in small letters, each as often as the event gives it. -/
def headerNames (e : Event) : List String :=
  (e.multiValueHeaders.getD []).map (fun h => Text.lowercase h.1) ++ fieldNames (e.headers.getD []) ++
    if e.cookies.getD [] = [] then [] else [HeaderName.cookie.text]

/-- The values that the event gives a name, in its order: those of the entries with several values, or, where the name
has no such entry, those of the entries with one value, and behind them the cookies. -/
def headerValues (e : Event) (name : String) : List String :=
  let multi := valuesNamed name (e.multiValueHeaders.getD [])
  (if multi = [] then valuesNamed name (e.headers.getD []) else multi.flatten) ++
    if name = HeaderName.cookie.text then e.cookies.getD [] else []

variable {e e' : Event}

theorem lookup_multiHeaders (e : Event) (name : String) : e.multiHeaders.lookup name =
    if valuesNamed name (e.multiValueHeaders.getD []) = [] then none
    else some (valuesNamed name (e.multiValueHeaders.getD [])).flatten := by
  unfold multiHeaders
  rw [lookup_foldl_addValues fun values => values]
  simp

/-- The entries with one value count for the names that have no entry with several. -/
private theorem valuesNamed_single (e : Event) (name : String) :
    valuesNamed name ((e.headers.getD []).filter fun h =>
        !(e.multiHeaders.map (·.1)).contains (Text.lowercase h.1)) =
      if valuesNamed name (e.multiValueHeaders.getD []) = [] then valuesNamed name (e.headers.getD []) else [] := by
  have hmem : name ∈ e.multiHeaders.map (·.1) ↔ valuesNamed name (e.multiValueHeaders.getD []) ≠ [] := by
    rw [mem_map_fst_iff, lookup_multiHeaders]
    split <;> simp_all
  unfold valuesNamed
  rw [List.filter_filter]
  split
  · rename_i hnone
    congr 1
    refine List.filter_congr fun h _ => ?_
    by_cases hname : Text.lowercase h.1 = name
    · have hnot : name ∉ e.multiHeaders.map (·.1) := fun hmulti => hmem.1 hmulti hnone
      rw [hname, List.contains_eq_mem, decide_eq_false hnot]
      simp
    · simp [hname]
  · rename_i hsome
    rw [List.map_eq_nil_iff, List.filter_eq_nil_iff]
    rintro h - hh
    rw [Bool.and_eq_true, decide_eq_true_eq, Bool.not_eq_true'] at hh
    obtain ⟨hname, hnot⟩ := hh
    rw [hname, List.contains_eq_mem, decide_eq_false_iff_not] at hnot
    exact hnot (hmem.2 hsome)

theorem mem_headerNames_iff {name : String} : name ∈ e.headerNames ↔
    valuesNamed name (e.multiValueHeaders.getD []) ≠ [] ∨ valuesNamed name (e.headers.getD []) ≠ [] ∨
      name = HeaderName.cookie.text ∧ e.cookies.getD [] ≠ [] := by
  have hcookies : name ∈ (if e.cookies.getD [] = [] then [] else [HeaderName.cookie.text]) ↔
      name = HeaderName.cookie.text ∧ e.cookies.getD [] ≠ [] := by
    split <;> simp_all
  unfold headerNames
  rw [List.mem_append, List.mem_append, hcookies, valuesNamed_ne_nil_iff, valuesNamed_ne_nil_iff, or_assoc]
  rfl

theorem lookup_gatheredHeaders (e : Event) (name : String) : e.gatheredHeaders.lookup name =
    if valuesNamed name (e.multiValueHeaders.getD []) = [] ∧ valuesNamed name (e.headers.getD []) = [] then none
    else some (if valuesNamed name (e.multiValueHeaders.getD []) = [] then valuesNamed name (e.headers.getD [])
      else (valuesNamed name (e.multiValueHeaders.getD [])).flatten) := by
  unfold gatheredHeaders
  rw [lookup_foldl_addValues fun value => [value], valuesNamed_single, lookup_multiHeaders]
  by_cases hmulti : valuesNamed name (e.multiValueHeaders.getD []) = [] <;>
    by_cases hsingle : valuesNamed name (e.headers.getD []) = [] <;> simp [hmulti, hsingle]

/-- The merged headers are the names of the event with the values that it gives them. -/
theorem lookup_mergedHeaders (e : Event) (name : String) :
    e.mergedHeaders.lookup name = if name ∈ e.headerNames then some (e.headerValues name) else none := by
  have hgathered := e.lookup_gatheredHeaders name
  have hnames : name ∈ e.headerNames ↔ _ := mem_headerNames_iff
  rw [mergedHeaders_eq]
  unfold headerValues
  -- only for the name of the cookies do these add anything
  by_cases hcookie : name = HeaderName.cookie.text ∧ e.cookies.getD [] ≠ []
  · obtain ⟨rfl, hcookies⟩ := hcookie
    rw [if_neg hcookies, lookup_addValues_self, hgathered, if_pos (hnames.2 (.inr (.inr ⟨rfl, hcookies⟩)))]
    split
    · rename_i hnone
      simp [hnone]
    · simp
  · have hlookup : (if e.cookies.getD [] = [] then e.gatheredHeaders
        else addValues HeaderName.cookie.text (e.cookies.getD []) e.gatheredHeaders).lookup name =
          e.gatheredHeaders.lookup name := by
      split
      · rfl
      · rename_i hcookies
        exact lookup_addValues_ne (fun hname => hcookie ⟨hname, hcookies⟩) _ _
    have hvalues : (if name = HeaderName.cookie.text then e.cookies.getD [] else []) = [] := by
      split
      · rename_i hname
        exact Classical.not_not.1 fun hcookies => hcookie ⟨hname, hcookies⟩
      · rfl
    have hgiven : name ∈ e.headerNames ↔
        ¬ (valuesNamed name (e.multiValueHeaders.getD []) = [] ∧ valuesNamed name (e.headers.getD []) = []) := by
      rw [hnames, or_iff_left_of_imp fun h => absurd h hcookie, Classical.not_and_iff_not_or_not]
    rw [hlookup, hgathered, hvalues, List.append_nil]
    by_cases hnone : valuesNamed name (e.multiValueHeaders.getD []) = [] ∧ valuesNamed name (e.headers.getD []) = []
    · rw [if_pos hnone, if_neg fun hmem => hgiven.1 hmem hnone]
    · rw [if_neg hnone, if_pos (hgiven.2 hnone)]

/-- The names of the merged headers are those that the event has. -/
theorem mem_mergedHeaders (e : Event) (name : String) : name ∈ e.mergedHeaders.map (·.1) ↔ name ∈ e.headerNames := by
  rw [mem_map_fst_iff, lookup_mergedHeaders]
  split <;> simp_all

/-- The merged headers are in the order in which the event first has their names. -/
theorem map_fst_mergedHeaders (e : Event) : e.mergedHeaders.map (·.1) = e.headerNames.eraseDups := by
  have hmulti : (e.multiHeaders.map (·.1)).eraseDups =
      ((e.multiValueHeaders.getD []).map fun h => Text.lowercase h.1).eraseDups :=
    eraseDups_names_foldl (fun values => values) _ []
  have hgathered : (e.gatheredHeaders.map (·.1)).eraseDups =
      ((e.multiValueHeaders.getD []).map (fun h => Text.lowercase h.1) ++ fieldNames (e.headers.getD [])).eraseDups := by
    unfold gatheredHeaders
    rw [eraseDups_names_foldl fun value => [value]]
    -- the names that are left out were there before
    refine eraseDups_append_congr hmulti ?_
    rw [fieldNames, List.filter_map, List.filter_map, List.filter_filter]
    congr 1
    refine List.filter_congr fun h _ => ?_
    simp
  rw [← eraseDups_of_nodup e.tidy_mergedHeaders.nodup, mergedHeaders_eq]
  unfold headerNames
  split
  · rw [hgathered, List.append_nil]
  · rw [eraseDups_names_addValues, eraseDups_append_congr hgathered rfl]

theorem mem_mergedHeaders_iff {name : String} {values : List String} : (name, values) ∈ e.mergedHeaders ↔
    name ∈ e.headerNames ∧ e.headerValues name = values := by
  rw [← lookup_eq_some_iff_of_nodup e.tidy_mergedHeaders.nodup, lookup_mergedHeaders]
  split <;> simp_all

theorem mergedHeaders_eq_map (e : Event) :
    e.mergedHeaders = e.headerNames.eraseDups.map fun name => (name, e.headerValues name) := by
  rw [← map_fst_mergedHeaders, List.map_map]
  refine ((List.map_congr_left fun group hgroup => ?_).trans (List.map_id _)).symm
  obtain ⟨-, hvalues⟩ := mem_mergedHeaders_iff.1 (show (group.1, group.2) ∈ e.mergedHeaders from hgroup)
  exact Prod.ext rfl hvalues

end Event

/-! ### Freedom in writing them -/

/-- One change to the entries of a member: a name is written in another letter case, or two neighbours that have
different names in any letter case change places. -/
inductive EntriesEdit {α : Type} : List (String × α) → List (String × α) → Prop where
  | recased (before after : List (String × α)) {name name' : String} (value : α)
    (h : Text.lowercase name = Text.lowercase name') :
    EntriesEdit (before ++ (name, value) :: after) (before ++ (name', value) :: after)
  | swapped (before after : List (String × α)) {h h' : String × α} (hne : Text.lowercase h.1 ≠ Text.lowercase h'.1) :
    EntriesEdit (before ++ h :: h' :: after) (before ++ h' :: h :: after)

theorem EntriesEdit.valuesNamed_eq {α : Type} {entries entries' : List (String × α)} (h : EntriesEdit entries entries')
    (name : String) : valuesNamed name entries' = valuesNamed name entries := by
  cases h with
  | recased before after value h =>
    rw [valuesNamed_append, valuesNamed_append, valuesNamed_cons, valuesNamed_cons, h]
  | @swapped before after h h' hne =>
    have hpair : valuesNamed name (h' :: h :: after) = valuesNamed name (h :: h' :: after) := by
      simp only [valuesNamed_cons]
      by_cases hname : Text.lowercase h.1 = name
      · have hname' : Text.lowercase h'.1 ≠ name := fun heq => hne (hname.trans heq.symm)
        rw [if_neg hname', if_neg hname']
      · rw [if_neg hname, if_neg hname]
    rw [valuesNamed_append, valuesNamed_append, hpair]

namespace Event

/-- One change to the headers of an event: to the entries of one member, or an entry with one value is left out whose
name has one with several as well. -/
inductive HeadersEdit (e : Event) : Event → Prop where
  | single {entries entries' : List (String × String)} (hheaders : e.headers = some entries)
    (h : EntriesEdit entries entries') : HeadersEdit e { e with headers := some entries' }
  | multi {entries entries' : List (String × List String)} (hheaders : e.multiValueHeaders = some entries)
    (h : EntriesEdit entries entries') : HeadersEdit e { e with multiValueHeaders := some entries' }
  | leftOut {before after : List (String × String)} {h : String × String}
    (hheaders : e.headers = some (before ++ h :: after))
    (hmulti : ∃ h' ∈ e.multiValueHeaders.getD [], Text.lowercase h'.1 = Text.lowercase h.1) :
    HeadersEdit e { e with headers := some (before ++ after) }

variable {e e' : Event}

/-- The event gives the same names the same values, and is the same but for the members with header fields. -/
structure Rewritten (e e' : Event) : Prop where
  others : ∃ headers multiValueHeaders, e' = { e with headers, multiValueHeaders }
  names : ∀ name, name ∈ e'.headerNames ↔ name ∈ e.headerNames
  values : ∀ name, e'.headerValues name = e.headerValues name

theorem Rewritten.refl (e : Event) : e.Rewritten e := ⟨⟨_, _, rfl⟩, fun _ => .rfl, fun _ => rfl⟩

theorem Rewritten.trans {e'' : Event} (h : e.Rewritten e') (h' : e'.Rewritten e'') : e.Rewritten e'' where
  others := by
    obtain ⟨headers, multiValueHeaders, rfl⟩ := h.others
    obtain ⟨headers', multiValueHeaders', rfl⟩ := h'.others
    exact ⟨_, _, rfl⟩
  names name := (h'.names name).trans (h.names name)
  values name := (h'.values name).trans (h.values name)

theorem HeadersEdit.rewritten (h : e.HeadersEdit e') : e.Rewritten e' := by
  cases h with
  | single hheaders h =>
    refine ⟨⟨_, _, rfl⟩, fun name => ?_, fun name => ?_⟩
    · simp only [mem_headerNames_iff, hheaders, Option.getD_some, h.valuesNamed_eq]
    · simp only [headerValues, hheaders, Option.getD_some, h.valuesNamed_eq]
  | multi hheaders h =>
    refine ⟨⟨_, _, rfl⟩, fun name => ?_, fun name => ?_⟩
    · simp only [mem_headerNames_iff, hheaders, Option.getD_some, h.valuesNamed_eq]
    · simp only [headerValues, hheaders, Option.getD_some, h.valuesNamed_eq]
  | @leftOut before after h hheaders hmulti =>
    obtain ⟨h', hmem', hname'⟩ := hmulti
    -- for its own name the entry did not count, and it has no other
    have hvalues : ∀ name, valuesNamed name (e.multiValueHeaders.getD []) = [] →
        valuesNamed name (before ++ after) = valuesNamed name (before ++ h :: after) := by
      intro name hnone
      have hname : Text.lowercase h.1 ≠ name := by
        rintro rfl
        exact valuesNamed_ne_nil_iff.2 (List.mem_map.2 ⟨h', hmem', hname'⟩) hnone
      rw [valuesNamed_append, valuesNamed_append, valuesNamed_cons, if_neg hname]
    refine ⟨⟨_, _, rfl⟩, fun name => ?_, fun name => ?_⟩
    · rw [mem_headerNames_iff, mem_headerNames_iff, hheaders]
      by_cases hnone : valuesNamed name (e.multiValueHeaders.getD []) = []
      · simp only [Option.getD_some, hvalues name hnone]
      · simp [hnone]
    · unfold headerValues
      rw [hheaders]
      dsimp only
      by_cases hnone : valuesNamed name (e.multiValueHeaders.getD []) = []
      · simp only [Option.getD_some, hvalues name hnone]
      · simp only [if_neg hnone]

theorem rewritten_of_edits (h : Relation.ReflTransGen HeadersEdit e e') : e.Rewritten e' := by
  induction h with
  | refl => exact .refl e
  | tail _ hedit ih => exact ih.trans hedit.rewritten

theorem Rewritten.joinedHeaders_perm (h : e.Rewritten e') : e.joinedHeaders.Perm e'.joinedHeaders := by
  refine (perm_of_lookup e.tidy_mergedHeaders.nodup e'.tidy_mergedHeaders.nodup fun name => ?_).map joined
  rw [lookup_mergedHeaders, lookup_mergedHeaders, h.values]
  simp only [h.names]

/-- A rewritten event is accepted if the event was, and as the same request. -/
theorem Rewritten.exists_toRequest (h : e.Rewritten e') {strip : Bool} {r : Request} (hr : e.toRequest strip = .ok r) :
    ∃ r', e'.toRequest strip = .ok r' ∧ r.Same r' := by
  have hmakes := toRequest_eq_ok_iff.1 hr
  have hagree := requestHeaders_agree h.joinedHeaders_perm
  rw [hmakes.headers] at hagree
  obtain ⟨headers, hheaders, hsame⟩ : ∃ headers, e'.requestHeaders = .ok headers ∧
      ∀ name, r.headers.getAll name = headers.getAll name := by
    generalize e'.requestHeaders = result at hagree
    cases hagree with
    | accepted hsame => exact ⟨_, rfl, hsame⟩
  obtain ⟨_, _, rfl⟩ := h.others
  refine ⟨{ r with headers }, toRequest_eq_ok_iff.2 { hmakes with headers := hheaders }, ?_⟩
  exact ⟨rfl, rfl, hsame, rfl, rfl, rfl, rfl⟩

/-- A group for each name of the event, its values put together. -/
theorem mem_joinedHeaders_iff {group : String × List String} : group ∈ e.joinedHeaders ↔
    group.1 ∈ e.headerNames ∧ group.2 = [(separator group.1).intercalate (e.headerValues group.1)] := by
  unfold joinedHeaders
  rw [List.mem_map]
  constructor
  · rintro ⟨⟨name, values⟩, hmem, rfl⟩
    obtain ⟨hname, rfl⟩ := mem_mergedHeaders_iff.1 hmem
    exact ⟨hname, rfl⟩
  · rintro ⟨hname, hvalues⟩
    refine ⟨(group.1, e.headerValues group.1), mem_mergedHeaders_iff.2 ⟨hname, rfl⟩, ?_⟩
    exact Prod.ext rfl hvalues.symm

theorem bytes_of_headerField {group : String × List String} {field : HeaderName × HeaderValue}
    (h : headerField group = .ok field) :
    field.2.bytes = Text.Utf8.encode ((separator group.1).intercalate group.2) := by
  unfold headerField at h
  split at h
  · cases h
  · split at h
    · cases h
    · rename_i value hvalue
      cases h
      unfold HeaderValue.ofText? HeaderValue.ofBytes? at hvalue
      split at hvalue
      · cases hvalue
        rfl
      · cases hvalue

/-- The names of an event are in small letters. -/
theorem lowercase_of_mem_headerNames {name : String} (h : name ∈ e.headerNames) : Text.lowercase name = name :=
  e.tidy_mergedHeaders.small name ((e.mem_mergedHeaders name).2 h)

/-- Cookies are put together in a way of their own. -/
theorem separator_text (n : HeaderName) : separator n.text = if n = HeaderName.cookie then "; " else ", " := by
  unfold separator
  simp only [HeaderName.ext_iff]

variable {headers : Headers}

/-- The request has each name of the event, with the values of the event put together. -/
theorem exists_getAll_of_mem_headerNames (hheaders : e.requestHeaders = .ok headers) {name : String}
    (h : name ∈ e.headerNames) : ∃ n : HeaderName, n.text = name ∧ ∃ value, headers.getAll n = [value] ∧
      value.bytes = Text.Utf8.encode ((separator name).intercalate (e.headerValues name)) := by
  have hgroup : (name, [(separator name).intercalate (e.headerValues name)]) ∈ e.joinedHeaders :=
    mem_joinedHeaders_iff.2 ⟨h, rfl⟩
  obtain ⟨-, hmapM⟩ := requestHeaders_eq_ok_iff.1 hheaders
  obtain ⟨⟨n, value⟩, hfield⟩ := exists_mapM_eq_ok.1 ⟨_, hmapM⟩ _ hgroup
  refine ⟨n, ?_, value, getAll_of_requestHeaders hheaders hgroup hfield, ?_⟩
  · exact (text_of_headerField hfield).trans (lowercase_of_mem_headerNames h)
  · exact (bytes_of_headerField hfield).trans (by rw [String.intercalate_singleton])

/-- The request has no other names. -/
theorem text_mem_headerNames (hheaders : e.requestHeaders = .ok headers) {n : HeaderName} (h : n ∈ headers.names) :
    n.text ∈ e.headerNames := by
  obtain ⟨value, hvalue⟩ := List.exists_mem_of_ne_nil _ (Headers.mem_names.1 h)
  obtain ⟨group, hgroup, hfield⟩ := exists_of_mem_getAll hheaders hvalue
  obtain ⟨hname, -⟩ := mem_joinedHeaders_iff.1 hgroup
  have htext : n.text = Text.lowercase group.1 := text_of_headerField hfield
  rw [htext, lowercase_of_mem_headerNames hname]
  exact hname

end Event

/-- The headers of a request are merged from those of the event.  It has exactly the names that the event has, and each
with one value, which is the values of the event in their order, put together with a semicolon for the cookies and with a
comma for all others.  So it stays the same where entries with one value are left out whose names have entries with
several as well, where names are written in other letter cases, and where entries of different names are reordered. -/
theorem headers_merged {e : Event} {strip : Bool} {r : Request} (hr : e.toRequest strip = .ok r) :
    (∀ name, (∃ n ∈ r.headers.names, n.text = name) ↔ name ∈ e.headerNames) ∧
    (∀ n ∈ r.headers.names, ∃ value, r.headers.getAll n = [value] ∧ value.bytes =
      Text.Utf8.encode ((if n = HeaderName.cookie then "; " else ", ").intercalate (e.headerValues n.text))) ∧
    ∀ e', Relation.ReflTransGen Event.HeadersEdit e e' → ∃ r', e'.toRequest strip = .ok r' ∧ r.Same r' := by
  have hheaders := (Event.toRequest_eq_ok_iff.1 hr).headers
  refine ⟨fun name => ⟨?_, fun hname => ?_⟩, fun n hn => ?_, fun e' hedits => ?_⟩
  · rintro ⟨n, hn, rfl⟩
    exact Event.text_mem_headerNames hheaders hn
  · obtain ⟨n, htext, value, hvalue, -⟩ := Event.exists_getAll_of_mem_headerNames hheaders hname
    refine ⟨n, Headers.mem_names.2 ?_, htext⟩
    rw [hvalue]
    exact List.cons_ne_nil value []
  · have hname := Event.text_mem_headerNames hheaders hn
    obtain ⟨n', htext, value, hvalue, hbytes⟩ := Event.exists_getAll_of_mem_headerNames hheaders hname
    obtain rfl := HeaderName.ext htext
    rw [Event.separator_text] at hbytes
    exact ⟨value, hvalue, hbytes⟩
  · exact (Event.rewritten_of_edits hedits).exists_toRequest hr

namespace Sample

/-- An event with a header in three letter cases, a copy of it, and cookies in two members. -/
def mergedEvent : Event :=
  { httpMethod := some "GET", path := some "/",
    headers := some [("Cookie", "a=1"), ("x-tag", "3"), ("Accept", "text/html")],
    multiValueHeaders := some [("X-Tag", ["1"]), ("X-TAG", ["2", "3"])], cookies := some ["b=2"] }

end Sample

/-- The cookies of both members are put together, and without the copy the request is the same. -/
theorem headers_merged_cookies : ∃ r, Sample.mergedEvent.toRequest false = .ok r ∧
    (∃ value, r.headers.getAll HeaderName.cookie = [value] ∧ value.bytes = Text.Utf8.encode "a=1; b=2") ∧
    ∃ r', { Sample.mergedEvent with headers := some [("Cookie", "a=1"), ("Accept", "text/html")] }.toRequest false =
      .ok r' ∧ r.Same r' := by
  obtain ⟨r, hr⟩ : ∃ r, Sample.mergedEvent.toRequest false = .ok r := exists_eq_ok_of_isSome (by decide +kernel)
  obtain ⟨hnames, hvalues, hsame⟩ := headers_merged hr
  have hmulti : ∃ h ∈ Sample.mergedEvent.multiValueHeaders.getD [], Text.lowercase h.1 = Text.lowercase "x-tag" :=
    ⟨("X-Tag", ["1"]), by decide, by decide⟩
  have hedit := @Event.HeadersEdit.leftOut Sample.mergedEvent [("Cookie", "a=1")] [("Accept", "text/html")] ("x-tag", "3")
    rfl hmulti
  refine ⟨r, hr, ?_, hsame _ (.single hedit)⟩
  obtain ⟨n, hn, htext⟩ := (hnames "cookie").2 (by decide)
  obtain rfl : n = HeaderName.cookie := HeaderName.ext htext
  obtain ⟨value, hvalue, hbytes⟩ := hvalues _ hn
  have hjoined : (if HeaderName.cookie = HeaderName.cookie then "; " else ", ").intercalate
      (Sample.mergedEvent.headerValues HeaderName.cookie.text) = "a=1; b=2" := by decide
  rw [hjoined] at hbytes
  exact ⟨value, hvalue, hbytes⟩

end CatalogGateway
