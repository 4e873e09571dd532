import CatalogGateway.Event.Adapt
import CatalogGateway.Proofs.Lists
import Mathlib.Data.List.Nodup

/-!
# The headers of an event

An event lists its header fields in one or two members, and its cookies in a third.  As long as the names differ, each
field is a group of its own among the merged headers (`Event.mergedHeaders_of_lists`), and the order of the groups does
not matter: the request gets the same values for every name, or is refused for one of its headers in any order
(`Event.requestHeaders_agree`).
-/

namespace CatalogGateway

theorem toLower_of_not_capital {c : Char} (h : ¬ (c.val ≥ 'A'.val ∧ c.val ≤ 'Z'.val)) : c.toLower = c :=
  dif_neg h

private theorem toLower_toLower (c : Char) : c.toLower.toLower = c.toLower := by
  by_cases h : c.val ≥ 'A'.val ∧ c.val ≤ 'Z'.val
  · refine toLower_of_not_capital ?_
    have hval : c.toLower.val = c.val + ('a'.val - 'A'.val) := congrArg Char.val (dif_pos h)
    rw [hval]
    rintro ⟨-, hle⟩
    simp only [ge_iff_le, UInt32.le_iff_toNat_le, UInt32.toNat_add, Char.reduceVal, UInt32.reduceSub,
      UInt32.reduceToNat] at h hle
    omega
  · rw [toLower_of_not_capital h, toLower_of_not_capital h]

theorem Text.lowercase_lowercase (s : String) : Text.lowercase (Text.lowercase s) = Text.lowercase s := by
  rw [← String.toList_inj, toList_lowercase, toList_lowercase, List.map_map]
  exact List.map_congr_left fun c _ => toLower_toLower c

/-! ### Merging -/

/-- Values of a new name are a new group. -/
theorem addValues_of_not_mem {name : String} (values : List String) {m : MergedHeaders} (h : name ∉ m.map (·.1)) :
    addValues name values m = m ++ [(name, values)] := by
  induction m with
  | nil => rfl
  | cons group rest ih =>
    obtain ⟨n, vs⟩ := group
    simp only [List.map_cons, List.mem_cons, not_or] at h
    rw [addValues, if_neg (Ne.symm h.1), ih h.2, List.cons_append]

theorem foldl_addValues (m groups : MergedHeaders) (h : ((m ++ groups).map (·.1)).Nodup) :
    groups.foldl (fun m group => addValues group.1 group.2 m) m = m ++ groups := by
  induction groups generalizing m with
  | nil => simp
  | cons group rest ih =>
    have hnot : group.1 ∉ m.map (·.1) := by
      intro hmem
      rw [List.map_append, List.map_cons] at h
      exact (List.nodup_append.1 h).2.2 _ hmem _ List.mem_cons_self rfl
    rw [List.foldl_cons, addValues_of_not_mem _ hnot, ih _ (by simpa using h)]
    simp

/-- The names of merged headers are different, and in small letters. -/
structure MergedHeaders.Tidy (m : MergedHeaders) : Prop where
  nodup : (m.map (·.1)).Nodup
  small : ∀ name ∈ m.map (·.1), Text.lowercase name = name

theorem map_fst_addValues (name : String) (values : List String) (m : MergedHeaders) :
    (addValues name values m).map (·.1) = if name ∈ m.map (·.1) then m.map (·.1) else m.map (·.1) ++ [name] := by
  induction m with
  | nil => simp [addValues]
  | cons group rest ih =>
    obtain ⟨n, vs⟩ := group
    rw [addValues]
    by_cases hn : n = name
    · simp [hn]
    · rw [if_neg hn, List.map_cons, ih]
      by_cases hmem : name ∈ rest.map (·.1)
      · simp [hmem]
      · simp [hmem, Ne.symm hn]

namespace MergedHeaders.Tidy

variable {m : MergedHeaders}

theorem addValues (h : m.Tidy) {name : String} (hname : Text.lowercase name = name) (values : List String) :
    (addValues name values m).Tidy := by
  constructor
  · rw [map_fst_addValues]
    split
    · exact h.nodup
    · rename_i hmem
      refine List.nodup_append.2 ⟨h.nodup, List.nodup_singleton _, ?_⟩
      rintro other hother _ heq rfl
      exact hmem (List.mem_singleton.1 heq ▸ hother)
  · rw [map_fst_addValues]
    split
    · exact h.small
    · intro other hother
      rcases List.mem_append.1 hother with hother | hother
      · exact h.small other hother
      · rw [List.mem_singleton.1 hother, hname]

theorem foldl {α : Type} (name : α → String) (values : α → List String) (l : List α) (h : m.Tidy) :
    (l.foldl (fun m a => CatalogGateway.addValues (Text.lowercase (name a)) (values a) m) m).Tidy := by
  induction l generalizing m with
  | nil => exact h
  | cons a rest ih => exact ih (h.addValues (Text.lowercase_lowercase _) _)

end MergedHeaders.Tidy

/-- What is gathered from the two members with header fields. -/
def Event.gatheredHeaders (e : Event) : MergedHeaders :=
  ((e.headers.getD []).filter fun h => !(e.multiHeaders.map (·.1)).contains (Text.lowercase h.1)).foldl
    (fun m h => addValues (Text.lowercase h.1) [h.2] m) e.multiHeaders

/-- The cookies come last. -/
theorem Event.mergedHeaders_eq (e : Event) : e.mergedHeaders =
    if e.cookies.getD [] = [] then e.gatheredHeaders
    else addValues HeaderName.cookie.text (e.cookies.getD []) e.gatheredHeaders := by
  unfold mergedHeaders
  rcases e.cookies with _ | (_ | ⟨cookie, cookies⟩)
  · rfl
  · rfl
  · exact (if_neg (List.cons_ne_nil cookie cookies)).symm

theorem Event.tidy_mergedHeaders (e : Event) : e.mergedHeaders.Tidy := by
  have hmulti : e.multiHeaders.Tidy := by
    refine MergedHeaders.Tidy.foldl (fun h : String × List String => h.1) (fun h => h.2) _ ?_
    constructor <;> simp
  have hgathered : e.gatheredHeaders.Tidy :=
    MergedHeaders.Tidy.foldl (fun h : String × String => h.1) (fun h => [h.2]) _ hmulti
  rw [mergedHeaders_eq]
  split
  · exact hgathered
  · exact hgathered.addValues (by decide) _

/-- The names of fields, in small letters. -/
def fieldNames (fields : List (String × String)) : List String := fields.map fun h => Text.lowercase h.1

/-- The group of a field that has a name of its own. -/
def fieldGroup (h : String × String) : String × List String := (Text.lowercase h.1, [h.2])

/-- The group of the cookies. -/
def cookieGroup (cookies : List String) : MergedHeaders :=
  if cookies = [] then [] else [(HeaderName.cookie.text, cookies)]

@[simp] theorem map_fst_fieldGroup (fields : List (String × String)) :
    (fields.map fieldGroup).map (·.1) = fieldNames fields := by
  simp [fieldNames, fieldGroup]

namespace Event

/-- The header fields that the event lists: those it gives with all their values, which is one value for each, and of
the others those that are not copies of them. -/
def Lists (e : Event) (fields : List (String × String)) : Prop :=
  ∃ mirrored, e.multiValueHeaders.getD [] = mirrored.map (fun h => (h.1, [h.2])) ∧
    fields = mirrored ++ (e.headers.getD []).filter (· ∉ mirrored)

variable {e : Event} {fields : List (String × String)}

/-- The order in which an event lists its fields is a given one. -/
theorem Lists.unique {fields' : List (String × String)} (h : e.Lists fields) (h' : e.Lists fields') :
    fields = fields' := by
  obtain ⟨mirrored, hmirrored, rfl⟩ := h
  obtain ⟨mirrored', hmirrored', rfl⟩ := h'
  have hinj : Function.Injective fun h : String × String => (h.1, [h.2]) := by
    rintro ⟨name, value⟩ ⟨name', value'⟩ heq
    simpa using heq
  have heq : mirrored = mirrored' := hinj.list_map (hmirrored.symm.trans hmirrored')
  rw [heq]

private theorem foldl_fields (mirrored single : List (String × String))
    (h : (fieldNames (mirrored ++ single)).Nodup) :
    single.foldl (fun m h => addValues (Text.lowercase h.1) [h.2] m) (mirrored.map fieldGroup) =
      (mirrored ++ single).map fieldGroup := by
  have hfold := foldl_addValues (mirrored.map fieldGroup) (single.map fieldGroup)
    (by rwa [← List.map_append, map_fst_fieldGroup])
  rw [List.foldl_map] at hfold
  rw [List.map_append]
  exact hfold

/-- The fields that are given with one value and are no copies, are those whose names are not given with all values. -/
private theorem filter_copies {mirrored single : List (String × String)}
    (hnames : (fieldNames (mirrored ++ single.filter (· ∉ mirrored))).Nodup) :
    (single.filter fun h => !(fieldNames mirrored).contains (Text.lowercase h.1)) =
      single.filter (· ∉ mirrored) := by
  refine List.filter_congr fun h hh => ?_
  by_cases hmem : h ∈ mirrored
  · have hname : Text.lowercase h.1 ∈ fieldNames mirrored := List.mem_map_of_mem hmem
    simp [hmem, hname]
  · have hname : Text.lowercase h.1 ∉ fieldNames mirrored := by
      -- the field is listed as well, so its name would be there twice
      intro hname
      rw [fieldNames, List.map_append] at hnames
      refine (List.nodup_append.1 hnames).2.2 _ hname _ (List.mem_map_of_mem ?_) rfl
      exact List.mem_filter.2 ⟨hh, by simpa using hmem⟩
    simp [hmem, hname]

/-- The merged headers of an event whose fields have different names. -/
theorem mergedHeaders_of_lists (h : e.Lists fields) (hnames : (fieldNames fields).Nodup)
    (hcookie : e.cookies.getD [] = [] ∨ HeaderName.cookie.text ∉ fieldNames fields) :
    e.mergedHeaders = fields.map fieldGroup ++ cookieGroup (e.cookies.getD []) := by
  obtain ⟨mirrored, hmirrored, rfl⟩ := h
  have hmulti : e.multiHeaders = mirrored.map fieldGroup := by
    have hfold := foldl_fields [] mirrored (by
      rw [fieldNames, List.map_append] at hnames
      exact (List.nodup_append.1 hnames).1)
    rw [multiHeaders, hmirrored, List.foldl_map]
    exact hfold
  have hmerged := foldl_fields mirrored _ hnames
  have hsingle := filter_copies hnames
  rw [← hsingle, ← map_fst_fieldGroup mirrored] at hmerged hcookie ⊢
  have hgathered : e.gatheredHeaders = (mirrored ++ (e.headers.getD []).filter fun h =>
      !((mirrored.map fieldGroup).map (·.1)).contains (Text.lowercase h.1)).map fieldGroup := by
    unfold gatheredHeaders
    rw [hmulti, hmerged]
  rw [mergedHeaders_eq, hgathered]
  unfold cookieGroup
  split
  · simp
  · rename_i hcookies
    have hnot := hcookie.resolve_left hcookies
    rw [← map_fst_fieldGroup] at hnot
    exact addValues_of_not_mem _ hnot

end Event

/-! ### The order of the fields -/

/-- Where each name has one value, the order of the fields does not matter. -/
private theorem filter_eq_of_perm {l l' : List (HeaderName × HeaderValue)} (h : l.Perm l')
    (hnames : (l.map (·.1)).Nodup) (name : HeaderName) : l.filter (·.1 = name) = l'.filter (·.1 = name) := by
  induction h with
  | nil => rfl
  | cons field _ ih =>
    rw [List.map_cons, List.nodup_cons] at hnames
    rw [List.filter_cons, List.filter_cons, ih hnames.2]
  | swap field field' l =>
    have hne : field'.1 ≠ field.1 := by
      rw [List.map_cons, List.map_cons, List.nodup_cons, List.mem_cons, not_or] at hnames
      exact hnames.1.1
    by_cases hfield : field.1 = name
    · have hfield' : field'.1 ≠ name := hfield ▸ hne
      simp [hfield, hfield']
    · simp [List.filter_cons, hfield]
  | trans h _ ih ih' => rw [ih hnames, ih' ((h.map (·.1)).nodup_iff.1 hnames)]

/-- Where the names are different, a field has the one value of its name. -/
private theorem filter_eq_of_mem {l : List (HeaderName × HeaderValue)} (hnames : (l.map (·.1)).Nodup)
    {field : HeaderName × HeaderValue} (hmem : field ∈ l) : l.filter (·.1 = field.1) = [field] := by
  rw [filter_eq_of_perm (List.perm_cons_erase hmem) hnames]
  have hrest : ((l.erase field).filter (·.1 = field.1)) = [] := by
    rw [((List.perm_cons_erase hmem).map (·.1)).nodup_iff, List.map_cons, List.nodup_cons] at hnames
    rw [List.filter_eq_nil_iff]
    intro other hother
    simp only [decide_eq_true_eq]
    intro heq
    exact hnames.1 (List.mem_map.2 ⟨other, hother, heq⟩)
  simp [hrest]

/-- Why a request is refused for one of its headers. -/
def AdaptFailure.AtHeader : AdaptFailure → Prop
  | .rejected (.invalidHeaderName _) => True
  | .rejected (.invalidHeaderValue _) => True
  | _ => False

/-- Two readings agree: both give a value, the two being related, or both are given up for the same reason, or both for
one of the headers. -/
inductive AdaptAgree {α : Type} (Same : α → α → Prop) : Except AdaptFailure α → Except AdaptFailure α → Prop where
  | accepted {a a' : α} (h : Same a a') : AdaptAgree Same (.ok a) (.ok a')
  | refused (failure : AdaptFailure) : AdaptAgree Same (.error failure) (.error failure)
  | refusedAtHeader {failure failure' : AdaptFailure} (h : failure.AtHeader) (h' : failure'.AtHeader) :
    AdaptAgree Same (.error failure) (.error failure')

theorem AdaptAgree.bind {α β : Type} {Same : α → α → Prop} {Same' : β → β → Prop} {x x' : Except AdaptFailure α}
    {f f' : α → Except AdaptFailure β} (h : AdaptAgree Same x x')
    (hf : ∀ a a', Same a a' → AdaptAgree Same' (f a) (f' a')) : AdaptAgree Same' (x >>= f) (x' >>= f') := by
  cases h with
  | accepted h => exact hf _ _ h
  | refused failure => exact .refused failure
  | refusedAtHeader h h' => exact .refusedAtHeader h h'

namespace Event

theorem atHeader_of_headerField {h : String × List String} {failure : AdaptFailure}
    (hf : headerField h = .error failure) : failure.AtHeader := by
  unfold headerField at hf
  split at hf
  · cases hf
    trivial
  · split at hf
    · cases hf
      trivial
    · cases hf

theorem text_of_headerField {h : String × List String} {field : HeaderName × HeaderValue}
    (hf : headerField h = .ok field) : field.1.text = Text.lowercase h.1 := by
  unfold headerField at hf
  split at hf
  · cases hf
  · rename_i name hname
    split at hf
    · cases hf
    · cases hf
      unfold HeaderName.ofText? at hname
      split at hname
      · cases hname
        rfl
      · cases hname

/-- The names of the fields are those of the groups. -/
theorem names_of_mapM_headerField {groups : MergedHeaders} {fields : List (HeaderName × HeaderValue)}
    (h : groups.mapM headerField = .ok fields) :
    fields.map (·.1.text) = groups.map fun group => Text.lowercase group.1 := by
  induction groups generalizing fields with
  | nil =>
    cases h
    rfl
  | cons group rest ih =>
    obtain ⟨field, more, hfield, hmore, rfl⟩ := mapM_cons_eq_ok.1 h
    rw [List.map_cons, List.map_cons, text_of_headerField hfield, ih hmore]

/-- The group with its values put together. -/
def joined (h : String × List String) : String × List String := (h.1, [(separator h.1).intercalate h.2])

theorem headerField_joined (h : String × List String) : headerField (joined h) = headerField h := by
  simp [headerField, joined]

theorem joined_fieldGroup (h : String × String) : joined (fieldGroup h) = fieldGroup h := by
  simp [joined, fieldGroup]

/-- The merged headers, the values of each name put together. -/
def joinedHeaders (e : Event) : MergedHeaders := e.mergedHeaders.map joined

theorem requestHeaders_eq (e : Event) : e.requestHeaders =
    if maxHeaderSlots < headerSlots e.joinedHeaders.length then .error .tooManyHeaders
    else (e.joinedHeaders.mapM headerField).map Headers.mk := by
  have hmapM : e.joinedHeaders.mapM headerField = e.mergedHeaders.mapM headerField := by
    rw [joinedHeaders, List.mapM_map]
    exact congrArg (e.mergedHeaders.mapM ·) (funext headerField_joined)
  rw [hmapM, joinedHeaders, List.length_map]
  rfl

/-- The fields of a request have different names. -/
theorem nodup_of_mapM_headerField {e : Event} {fields : List (HeaderName × HeaderValue)}
    (h : e.joinedHeaders.mapM headerField = .ok fields) : (fields.map (·.1)).Nodup := by
  have htidy := e.tidy_mergedHeaders
  refine List.Nodup.of_map HeaderName.text ?_
  rw [List.map_map]
  have hnames : e.joinedHeaders.map (fun group => Text.lowercase group.1) = e.mergedHeaders.map (·.1) := by
    rw [joinedHeaders, List.map_map]
    exact List.map_congr_left fun group hgroup => htidy.small group.1 (List.mem_map.2 ⟨group, hgroup, rfl⟩)
  have hfields := names_of_mapM_headerField h
  rw [hnames] at hfields
  exact hfields.symm ▸ htidy.nodup

theorem joinedHeaders_of_lists {e : Event} {fields : List (String × String)} (h : e.Lists fields)
    (hnames : (fieldNames fields).Nodup)
    (hcookie : e.cookies.getD [] = [] ∨ HeaderName.cookie.text ∉ fieldNames fields) :
    e.joinedHeaders = fields.map fieldGroup ++ (cookieGroup (e.cookies.getD [])).map joined := by
  have hfields : (fields.map fieldGroup).map joined = fields.map fieldGroup := by
    rw [List.map_map]
    exact List.map_congr_left fun h _ => joined_fieldGroup h
  rw [joinedHeaders, mergedHeaders_of_lists h hnames hcookie, List.map_append, hfields]

/-- The order of the groups does not matter, but for the header for which a request is refused. -/
theorem requestHeaders_agree {e e' : Event} (h : e.joinedHeaders.Perm e'.joinedHeaders) :
    AdaptAgree (fun h h' => ∀ name, h.getAll name = h'.getAll name) e.requestHeaders e'.requestHeaders := by
  rw [requestHeaders_eq, requestHeaders_eq, h.length_eq]
  split
  · exact .refused _
  · cases hfields : e.joinedHeaders.mapM headerField with
    | error failure =>
      cases hfields' : e'.joinedHeaders.mapM headerField with
      | error failure' =>
        -- the first fault in each order, and these may be different ones
        obtain ⟨group, -, hgroup⟩ := exists_of_mapM_eq_error hfields
        obtain ⟨group', -, hgroup'⟩ := exists_of_mapM_eq_error hfields'
        exact .refusedAtHeader (atHeader_of_headerField hgroup) (atHeader_of_headerField hgroup')
      | ok fields' =>
        obtain ⟨fields, hfields'', -⟩ := exists_perm_mapM h.symm hfields'
        rw [hfields] at hfields''
        cases hfields''
    | ok fields =>
      obtain ⟨fields', hfields', hperm⟩ := exists_perm_mapM h hfields
      rw [hfields']
      refine .accepted fun name => ?_
      exact congrArg (List.map (·.2)) (filter_eq_of_perm hperm (nodup_of_mapM_headerField hfields) name)

/-! ### What the request has -/

variable {e : Event} {headers : Headers}

theorem requestHeaders_eq_ok_iff : e.requestHeaders = .ok headers ↔
    headerSlots e.joinedHeaders.length ≤ maxHeaderSlots ∧ e.joinedHeaders.mapM headerField = .ok headers.fields := by
  rw [requestHeaders_eq]
  split
  · rename_i hlt
    simp only [reduceCtorEq, false_iff, not_and]
    intro hle
    omega
  · rename_i hle
    rw [Nat.not_lt] at hle
    cases e.joinedHeaders.mapM headerField with
    | error failure => simp [Except.map]
    | ok fields =>
      obtain ⟨fields'⟩ := headers
      simp [Except.map, hle]

/-- A group gives its name the one value that it is put together to. -/
theorem getAll_of_requestHeaders (h : e.requestHeaders = .ok headers) {group : String × List String}
    (hgroup : group ∈ e.joinedHeaders) {name : HeaderName} {value : HeaderValue}
    (hfield : headerField group = .ok (name, value)) : headers.getAll name = [value] := by
  obtain ⟨-, hmapM⟩ := requestHeaders_eq_ok_iff.1 h
  have hmem : (name, value) ∈ headers.fields := (mem_mapM hmapM).2 ⟨group, hgroup, hfield⟩
  rw [Headers.getAll, filter_eq_of_mem (nodup_of_mapM_headerField hmapM) hmem]
  rfl

/-- A value that the request has for a name comes from a group. -/
theorem exists_of_mem_getAll (h : e.requestHeaders = .ok headers) {name : HeaderName} {value : HeaderValue}
    (hvalue : value ∈ headers.getAll name) : ∃ group ∈ e.joinedHeaders, headerField group = .ok (name, value) := by
  obtain ⟨field, hfield, rfl⟩ := List.mem_map.1 hvalue
  rw [List.mem_filter, decide_eq_true_eq] at hfield
  obtain ⟨hmem, rfl⟩ := hfield
  exact (mem_mapM (requestHeaders_eq_ok_iff.1 h).2).1 hmem

/-- A request has at most one value for a name. -/
theorem length_getAll_of_requestHeaders (h : e.requestHeaders = .ok headers) (name : HeaderName) :
    (headers.getAll name).length ≤ 1 := by
  cases hvalues : headers.getAll name with
  | nil => simp
  | cons value rest =>
    obtain ⟨group, hgroup, hfield⟩ := exists_of_mem_getAll h (hvalues ▸ List.mem_cons_self : value ∈ headers.getAll name)
    have hsingle := getAll_of_requestHeaders h hgroup hfield
    rw [hvalues] at hsingle
    simp [hsingle]

theorem headerField_fieldGroup {h : String × String} {name : HeaderName} {value : HeaderValue} :
    headerField (fieldGroup h) = .ok (name, value) ↔
      HeaderName.ofText? h.1 = some name ∧ HeaderValue.ofText? h.2 = some value := by
  have hname : HeaderName.ofText? (Text.lowercase h.1) = HeaderName.ofText? h.1 := by
    simp only [HeaderName.ofText?, Text.lowercase_lowercase]
  unfold headerField fieldGroup
  rw [hname, String.intercalate_singleton]
  cases HeaderName.ofText? h.1 with
  | none => simp
  | some name' => cases HeaderValue.ofText? h.2 <;> simp

end Event

end CatalogGateway
