import CatalogGateway.Proofs.Lists
import CatalogGateway.Proofs.Route.Grammar
import CatalogGateway.Proofs.Text.Pieces
import CatalogGateway.Route.Match

/-!
# What a pattern matches

A path matches a pattern if its segments can be shared out among those of the pattern (`Pattern.Shares`), and the
parameters then have what they took for values (`Pattern.captured`).  Put in for the parameters, the values give the path
again, up to empty segments (`Pattern.pathSegments_fill`).  So only the non-empty segments count, of patterns and of paths
(`paths_shared_out`).
-/

namespace CatalogGateway

/-! ### Sharing out -/

/-- The segments of a path that a segment of a pattern may take. -/
inductive Segment.Takes : Segment → List String → Prop where
  | literal (text : String) : Takes (.literal text) [text]
  | param (name part : String) : Takes (.param name) [part]
  | tail (name : String) {parts : List String} (h : parts ≠ []) : Takes (.tail name) parts

/-- A piece of a pattern, or the value of the parameter that it spells. -/
def Segment.fill (params : Params) (piece : String) : String :=
  (((ofText? piece).bind name?).bind params.get?).getD piece

/-- A segment of a pattern and the segments of a path that it takes. -/
abbrev Share := Segment × List String

/-- What is taken, as it stands in the path. -/
def Share.value (share : Share) : String := "/".intercalate share.2

theorem Share.value_singleton (segment : Segment) (part : String) : Share.value (segment, [part]) = part :=
  String.intercalate_singleton

namespace Pattern

/-- The segments of the path are shared out among those of the pattern, and nothing is left over. -/
structure Shares (segments : List Segment) (parts : List String) (shares : List Share) : Prop where
  segments : shares.map (·.1) = segments
  parts : shares.flatMap (·.2) = parts
  takes : ∀ share ∈ shares, share.1.Takes share.2

/-- The parameters, in the order of the pattern, each with what it took. -/
def captured (shares : List Share) : List (String × String) :=
  shares.filterMap fun share => share.1.name?.map (·, share.value)

/-- The text of the pattern with the values put in for its parameters. -/
def fill (pattern : Pattern) (params : Params) : String :=
  "/".intercalate ((Text.pieces '/' pattern.text).map (Segment.fill params))

variable {segment : Segment} {segments : List Segment} {parts : List String} {shares : List Share} {share : Share}
  {entries : List (String × String)} {pattern : Pattern} {path : String} {params : Params}

theorem shares_nil : Shares [] parts shares ↔ parts = [] ∧ shares = [] := by
  constructor
  · rintro ⟨hsegments, rfl, -⟩
    obtain rfl := List.map_eq_nil_iff.1 hsegments
    exact ⟨rfl, rfl⟩
  · rintro ⟨rfl, rfl⟩
    exact ⟨rfl, rfl, by simp⟩

theorem shares_cons : Shares (segment :: segments) parts shares ↔
    ∃ taken rest more, parts = taken ++ rest ∧ shares = (segment, taken) :: more ∧ segment.Takes taken ∧
      Shares segments rest more := by
  constructor
  · rintro ⟨hsegments, rfl, htakes⟩
    obtain ⟨⟨first, taken⟩, more, rfl, rfl, rfl⟩ := List.map_eq_cons_iff.1 hsegments
    rw [List.forall_mem_cons] at htakes
    exact ⟨taken, _, more, rfl, rfl, htakes.1, rfl, rfl, htakes.2⟩
  · rintro ⟨taken, rest, more, rfl, rfl, htaken, rfl, rfl, hmore⟩
    exact ⟨rfl, rfl, List.forall_mem_cons.2 ⟨htaken, hmore⟩⟩

theorem captured_cons (share : Share) (shares : List Share) :
    captured (share :: shares) = (share.1.name?.map (·, share.value)).toList ++ captured shares := by
  cases h : share.1.name? <;> simp [captured, h]

theorem map_fst_captured (shares : List Share) : (captured shares).map (·.1) = names (shares.map (·.1)) := by
  induction shares with
  | nil => rfl
  | cons share rest ih =>
    rw [captured_cons, List.map_append, ih, List.map_cons, names_cons]
    cases share.1.name? <;> rfl

theorem mem_captured {entry : String × String} : entry ∈ captured shares ↔
    ∃ share ∈ shares, share.1.name? = some entry.1 ∧ share.value = entry.2 := by
  simp [captured, List.mem_filterMap, Prod.ext_iff]

/-- One pass over the pattern finds the way in which the path can be shared out.  That only the last segment is a
wildcard is what lets a wildcard take all that is left. -/
theorem matchSegments_eq_some_iff (h : Orderly segments) :
    matchSegments segments parts = some entries ↔ ∃ shares, Shares segments parts shares ∧ captured shares = entries := by
  induction segments generalizing parts entries with
  | nil =>
    cases parts with
    | nil => simp [matchSegments, shares_nil, captured, eq_comm]
    | cons part parts => simp [matchSegments, shares_nil]
  | cons segment segments ih =>
    obtain ⟨-, hlast, horderly⟩ := orderly_cons.1 h
    constructor
    · intro hmatch
      cases parts with
      | nil => cases segment <;> cases hmatch
      | cons part parts =>
        cases segment with
        | literal text =>
          rw [matchSegments] at hmatch
          split at hmatch
          · rename_i hpart
            subst hpart
            obtain ⟨more, hmore, rfl⟩ := (ih horderly).1 hmatch
            exact ⟨_, shares_cons.2 ⟨[part], parts, more, rfl, rfl, .literal part, hmore⟩, captured_cons _ _⟩
          · cases hmatch
        | param name =>
          obtain ⟨rest, hrest, rfl⟩ := Option.map_eq_some_iff.1 hmatch
          obtain ⟨more, hmore, rfl⟩ := (ih horderly).1 hrest
          refine ⟨_, shares_cons.2 ⟨[part], parts, more, rfl, rfl, .param name part, hmore⟩, ?_⟩
          rw [captured_cons, Share.value_singleton]
          rfl
        | tail name =>
          cases hmatch
          obtain rfl := hlast rfl
          have htakes : (Segment.tail name).Takes (part :: parts) := .tail name (List.cons_ne_nil part parts)
          have hshares : Shares [.tail name] (part :: parts) [(.tail name, part :: parts)] :=
            shares_cons.2 ⟨part :: parts, [], [], (List.append_nil _).symm, rfl, htakes, shares_nil.2 ⟨rfl, rfl⟩⟩
          exact ⟨_, hshares, captured_cons _ _⟩
    · rintro ⟨shares, hshares, rfl⟩
      obtain ⟨taken, rest, more, rfl, rfl, htaken, hmore⟩ := shares_cons.1 hshares
      have hmatch := (ih horderly).2 ⟨more, hmore, rfl⟩
      cases htaken with
      | literal text => rwa [List.singleton_append, matchSegments, if_pos rfl, captured_cons]
      | param name part =>
        rw [List.singleton_append, matchSegments, hmatch, captured_cons, Share.value_singleton]
        rfl
      | @tail name _ hne =>
        obtain rfl := hlast rfl
        obtain ⟨rfl, rfl⟩ := shares_nil.1 hmore
        obtain ⟨part, parts, rfl⟩ := List.exists_cons_of_ne_nil hne
        rw [List.append_nil, matchSegments, captured_cons]
        rfl

theorem match?_eq_some_iff (h : Orderly pattern.segments) : pattern.match? path = some params ↔
    ∃ shares, Shares pattern.segments (pathSegments path) shares ∧ captured shares = params.entries := by
  rw [← matchSegments_eq_some_iff h, match?, Option.map_eq_some_iff]
  constructor
  · rintro ⟨entries, hentries, rfl⟩
    exact hentries
  · exact fun hentries => ⟨params.entries, hentries, rfl⟩

/-! ### Values -/

theorem words_of_mem_share (h : Shares segments (pathSegments path) shares) (hshare : share ∈ shares) {part : String}
    (hpart : part ∈ share.2) : Text.words '/' part = [part] := by
  have hmem : part ∈ pathSegments path := h.parts ▸ List.mem_flatMap.2 ⟨share, hshare, hpart⟩
  exact Text.words_of_mem_words hmem

/-- The segments of a value are those that were taken. -/
theorem pathSegments_value (h : Shares segments (pathSegments path) shares) (hshare : share ∈ shares) :
    pathSegments share.value = share.2 := by
  have hwords := Text.words_intercalate '/' share.2
  rw [List.flatMap_congr fun part hpart => words_of_mem_share h hshare hpart, List.flatMap_singleton'] at hwords
  exact hwords

theorem value_ne_empty (h : Shares segments (pathSegments path) shares) (hshare : share ∈ shares) :
    share.value ≠ "" := by
  intro hempty
  have hvalue : [] = share.2 := (congrArg pathSegments hempty).symm.trans (pathSegments_value h hshare)
  have htakes := h.takes share hshare
  rw [← hvalue] at htakes
  generalize share.1 = segment at htakes
  cases htakes with
  | tail name hne => exact hne rfl

/-- A parameter of one segment has no slash in its value. -/
theorem not_mem_value (h : Shares segments (pathSegments path) shares) (hshare : share ∈ shares) {name : String}
    (hparam : share.1 = .param name) : '/' ∉ share.value.toList := by
  obtain ⟨segment, taken⟩ := share
  have htakes := h.takes _ hshare
  obtain rfl : segment = .param name := hparam
  cases htakes with
  | param name part =>
    have hword : part ∈ pathSegments path := h.parts ▸ List.mem_flatMap.2 ⟨_, hshare, List.mem_singleton_self part⟩
    rw [Share.value_singleton]
    exact Text.not_mem_of_mem_pieces (List.mem_filter.1 hword).1

/-! ### Putting the values in -/

/-- A segment that takes something is filled with it. -/
theorem fill_of_takes {piece : String} (hspells : Segment.Spells piece share.1) (htakes : share.1.Takes share.2)
    (hvalue : ∀ name, share.1.name? = some name → params.get? name = some share.value) :
    Segment.fill params piece = share.value := by
  obtain ⟨segment, taken⟩ := share
  unfold Segment.fill
  rw [Segment.ofText?_eq_some_iff.2 hspells, Option.bind_some]
  cases htakes with
  | literal text =>
    cases hspells
    exact String.intercalate_singleton.symm
  | param name part => rw [Segment.name?, Option.bind_some, hvalue name rfl, Option.getD_some]
  | tail name hne => rw [Segment.name?, Option.bind_some, hvalue name rfl, Option.getD_some]

private theorem flatMap_fill {texts : List String} (hspelled : List.Forall₂ Segment.Spells texts (shares.map (·.1)))
    (htakes : ∀ share ∈ shares, share.1.Takes share.2)
    (hvalues : ∀ share ∈ shares, ∀ name, share.1.name? = some name → params.get? name = some share.value) :
    texts.flatMap (fun text => pathSegments (Segment.fill params text)) =
      shares.flatMap fun share => pathSegments share.value := by
  rw [List.forall₂_map_right_iff] at hspelled
  induction hspelled with
  | nil => rfl
  | cons hspells _ ih =>
    rw [List.forall_mem_cons] at htakes hvalues
    rw [List.flatMap_cons, List.flatMap_cons, fill_of_takes hspells htakes.1 hvalues.1, ih htakes.2 hvalues.2]

/-- Empty pieces can be left out where nothing is made of them. -/
private theorem flatMap_pieces {f : String → List String} (hempty : f "" = []) (text : String) :
    (Text.pieces '/' text).flatMap f = (pathSegments text).flatMap f := by
  unfold pathSegments Text.words
  induction Text.pieces '/' text with
  | nil => rfl
  | cons piece rest ih =>
    by_cases hpiece : piece = ""
    · simp [hpiece, hempty, ih]
    · simp [hpiece, ih]

/-- The values of a path that are put in for the parameters give the segments of the path. -/
theorem pathSegments_fill (h : Grammatical pattern.text pattern.segments)
    (hmatch : pattern.match? path = some params) : pathSegments (pattern.fill params) = pathSegments path := by
  obtain ⟨shares, hshares, hcaptured⟩ := (match?_eq_some_iff h.orderly).1 hmatch
  have hkeys : (params.entries.map (·.1)).Nodup := by
    rw [← hcaptured, map_fst_captured, hshares.segments]
    exact h.orderly.distinct
  have hvalues : ∀ share ∈ shares, ∀ name, share.1.name? = some name → params.get? name = some share.value := by
    intro share hshare name hname
    exact lookup_of_mem hkeys (hcaptured ▸ mem_captured.2 ⟨share, hshare, hname, rfl⟩)
  have hspelled := h.forall₂_spells
  rw [← hshares.segments] at hspelled
  calc pathSegments (pattern.fill params)
      = ((Text.pieces '/' pattern.text).map (Segment.fill params)).flatMap pathSegments :=
        Text.words_intercalate '/' _
    _ = (Text.pieces '/' pattern.text).flatMap fun piece => pathSegments (Segment.fill params piece) :=
        List.flatMap_map _ _ _
    _ = (pathSegments pattern.text).flatMap fun text => pathSegments (Segment.fill params text) :=
        flatMap_pieces rfl _
    _ = shares.flatMap fun share => pathSegments share.value := flatMap_fill hspelled hshares.takes hvalues
    _ = shares.flatMap (·.2) := List.flatMap_congr fun share hshare => pathSegments_value hshares hshare
    _ = pathSegments path := hshares.parts

/-- What is known of the parameters with which a path matches the pattern. -/
structure Captures (pattern : Pattern) (path : String) (params : Params) : Prop where
  names : params.entries.map (·.1) = Pattern.names pattern.segments
  distinct : (params.entries.map (·.1)).Nodup
  get?_eq_some : ∀ name value, params.get? name = some value ↔ (name, value) ∈ params.entries
  get?_eq_none : ∀ name, params.get? name = none ↔ name ∉ Pattern.names pattern.segments
  nonempty : ∀ entry ∈ params.entries, entry.2 ≠ ""
  single : ∀ name value, .param name ∈ pattern.segments → params.get? name = some value → '/' ∉ value.toList
  filled : pathSegments (pattern.fill params) = pathSegments path

theorem Grammatical.captures (h : Grammatical pattern.text pattern.segments)
    (hmatch : pattern.match? path = some params) : pattern.Captures path params := by
  obtain ⟨shares, hshares, hcaptured⟩ := (match?_eq_some_iff h.orderly).1 hmatch
  have hnames : params.entries.map (·.1) = Pattern.names pattern.segments := by
    rw [← hcaptured, map_fst_captured, hshares.segments]
  have hkeys : (params.entries.map (·.1)).Nodup := hnames ▸ h.orderly.distinct
  have hentry : ∀ entry, entry ∈ params.entries ↔ _ := fun entry => hcaptured ▸ mem_captured
  refine ⟨hnames, hkeys, fun name value => ⟨mem_of_lookup, lookup_of_mem hkeys⟩, fun name => ?_, ?_, ?_,
    pathSegments_fill h hmatch⟩
  · rw [← hnames, mem_map_fst_iff, not_not]
    rfl
  · intro entry hmem
    obtain ⟨share, hshare, -, hvalue⟩ := (hentry entry).1 hmem
    exact hvalue ▸ value_ne_empty hshares hshare
  · intro name value hparam hget
    obtain ⟨share, hshare, hsegment⟩ := List.mem_map.1 (hshares.segments ▸ hparam)
    have hmem : (name, share.value) ∈ params.entries := (hentry _).2 ⟨share, hshare, by rw [hsegment]; rfl, rfl⟩
    rw [Params.get?, lookup_of_mem hkeys hmem] at hget
    exact Option.some.inj hget ▸ not_mem_value hshares hshare hsegment

/-- Texts spell the same segments wherever they stand. -/
theorem Grammatical.segments_eq {text text' : String} {segments segments' : List Segment} (h : Grammatical text segments)
    (h' : Grammatical text' segments') (htexts : pathSegments text = pathSegments text') : segments = segments' := by
  have hunique : Relator.RightUnique Segment.Spells := fun _ _ _ => Segment.Spells.unique
  exact List.right_unique_forall₂' hunique h.forall₂_spells (htexts ▸ h'.forall₂_spells)

end Pattern

/-- A pattern that is read matches the paths whose segments can be shared out among its own, each of which takes what it
may, and no others; the parameters are called what the pattern calls them, and have what they took for values.  Empty
segments count neither in paths nor in patterns. -/
theorem paths_shared_out {text : String} {pattern : Pattern} (h : Pattern.parse text = .ok pattern) :
    (∀ path params, pattern.match? path = some params ↔
      ∃ shares, Pattern.Shares pattern.segments (pathSegments path) shares ∧ Pattern.captured shares = params.entries) ∧
    (∀ path params, pattern.match? path = some params → pattern.Captures path params) ∧
    (∀ path path', pathSegments path = pathSegments path' → pattern.match? path = pattern.match? path') ∧
    ∀ text' pattern', Pattern.parse text' = .ok pattern' → pathSegments text = pathSegments text' →
      ∀ path, pattern.match? path = pattern'.match? path := by
  obtain ⟨rfl, hgrammatical⟩ := Pattern.grammatical_of_parse h
  refine ⟨fun path params => Pattern.match?_eq_some_iff hgrammatical.orderly, fun path params => hgrammatical.captures,
    fun path path' hpaths => ?_, fun text' pattern' h' htexts path => ?_⟩
  · rw [Pattern.match?, Pattern.match?, hpaths]
  · have hsegments := hgrammatical.segments_eq (Pattern.grammatical_of_parse h').2 htexts
    rw [Pattern.match?, Pattern.match?, hsegments]

/-- A wildcard takes all that is left, and slashes too many make no difference. -/
theorem paths_shared_out_wildcard : ∃ pattern, Pattern.parse "/a//\x7bid\x7d/\x7b*rest\x7d/" = .ok pattern ∧
    pattern.match? "//a/1//2/3/" = some ⟨[("id", "1"), ("rest", "2/3")]⟩ ∧
    pattern.Captures "//a/1//2/3/" ⟨[("id", "1"), ("rest", "2/3")]⟩ := by
  have hparse : Pattern.parse "/a//\x7bid\x7d/\x7b*rest\x7d/" =
      .ok ⟨"/a//\x7bid\x7d/\x7b*rest\x7d/", [.literal "a", .param "id", .tail "rest"]⟩ := by decide +kernel
  obtain ⟨hmatch, hcaptures, -, -⟩ := paths_shared_out hparse
  have hpath : pathSegments "//a/1//2/3/" = ["a", "1", "2", "3"] := by decide +kernel
  have hshares : Pattern.Shares [.literal "a", .param "id", .tail "rest"] (pathSegments "//a/1//2/3/")
      [(.literal "a", ["a"]), (.param "id", ["1"]), (.tail "rest", ["2", "3"])] := by
    refine ⟨rfl, hpath.symm, ?_⟩
    simp only [List.forall_mem_cons, List.not_mem_nil, false_implies, implies_true, and_true]
    exact ⟨.literal "a", .param "id" "1", .tail "rest" (by simp)⟩
  have hmatched := (hmatch _ _).2 ⟨_, hshares, rfl⟩
  exact ⟨_, hparse, hmatched, hcaptures _ _ hmatched⟩

end CatalogGateway
