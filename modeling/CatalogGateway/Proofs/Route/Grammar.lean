import CatalogGateway.Proofs.Text.Pieces
import CatalogGateway.Route.Pattern
import Mathlib.Data.List.Forall2

/-!
# The grammar of route patterns

Into which parts slashes separate a text (`SlashedInto`), which segment a part spells (`Segment.Spells`), which segments
make up a pattern (`Pattern.Grammatical`), and what is wrong with a part after others (`Pattern.Fault`).  The patterns that
are read are those of the grammar, and of all others the first part that is wrong is told (`parse_grammar`).  That a part is
in braces and has no others shows if they are counted (`count_brace_iff`).
-/

namespace CatalogGateway

/-! ### Parts -/

/-- The text consists of pieces without slashes, with a slash between each and the next, and the parts are those pieces
that are not empty. -/
def SlashedInto (text : String) (parts : List String) : Prop :=
  ∃ pieces, pieces ≠ [] ∧ (∀ piece ∈ pieces, '/' ∉ piece.toList) ∧ text = "/".intercalate pieces ∧
    parts = pieces.filter (· ≠ "")

/-- A text has its segments for parts, and no others. -/
theorem slashedInto_iff {text : String} {parts : List String} : SlashedInto text parts ↔ pathSegments text = parts := by
  constructor
  · rintro ⟨pieces, hne, hslash, rfl, rfl⟩
    have hpieces : Text.pieces '/' ("/".intercalate pieces) = pieces := Text.pieces_intercalate hne hslash
    rw [pathSegments, Text.words, hpieces]
  · rintro rfl
    exact ⟨Text.pieces '/' text, Text.pieces_ne_nil '/' text, fun _ => Text.not_mem_of_mem_pieces,
      (Text.intercalate_pieces '/' text).symm, rfl⟩

/-! ### Segments -/

/-- None of the characters is a brace. -/
def BraceFree (cs : List Char) : Prop := '{' ∉ cs ∧ '}' ∉ cs

theorem count_eq_zero_iff_braceFree {cs : List Char} : cs.count '{' = 0 ∧ cs.count '}' = 0 ↔ BraceFree cs := by
  rw [List.count_eq_zero, List.count_eq_zero, BraceFree]

/-- Counting the braces and looking at both ends is enough to tell that a text is in braces. -/
theorem count_brace_iff {cs : List Char} :
    cs.count '{' = 1 ∧ cs.count '}' = 1 ∧ cs.head? = some '{' ∧ cs.getLast? = some '}' ↔
      ∃ inner, cs = '{' :: (inner ++ ['}']) ∧ BraceFree inner := by
  constructor
  · rintro ⟨hopen, hclose, hhead, hlast⟩
    obtain ⟨front, rfl⟩ := List.getLast?_eq_some_iff.1 hlast
    cases front with
    | nil => cases hhead
    | cons c inner =>
      cases hhead
      refine ⟨inner, rfl, ?_, ?_⟩
      · rw [← List.count_eq_zero]
        simpa [List.count_cons] using hopen
      · rw [← List.count_eq_zero]
        simpa [List.count_cons] using hclose
  · rintro ⟨inner, rfl, hopen, hclose⟩
    rw [← List.count_eq_zero] at hopen hclose
    refine ⟨by simp [hopen], by simp [hclose], rfl, ?_⟩
    rw [← List.cons_append, List.getLast?_concat]

namespace Segment

/-- The text spells the segment. -/
inductive Spells : String → Segment → Prop where
  | literal {text : String} (h : BraceFree text.toList) : Spells text (.literal text)
  | param {inner : String} (h : BraceFree inner.toList) (hstar : inner.toList.head? ≠ some '*') :
    Spells ("\x7b" ++ inner ++ "\x7d") (.param inner)
  | tail {name : String} (h : BraceFree name.toList) : Spells ("\x7b*" ++ name ++ "\x7d") (.tail name)

variable {text : String} {segment : Segment}

private theorem ofText?_of_braceFree (h : BraceFree text.toList) : ofText? text = some (literal text) :=
  if_pos (count_eq_zero_iff_braceFree.2 h)

/-- A text in braces is read by what is between them. -/
private theorem ofText?_of_braced {inner : List Char} (htext : text.toList = '{' :: (inner ++ ['}']))
    (h : BraceFree inner) : ofText? text =
      if inner.head? = some '*' then some (tail (String.ofList inner.tail)) else some (param (String.ofList inner)) := by
  obtain ⟨hopen, hclose, hhead, hlast⟩ := count_brace_iff.2 ⟨inner, htext, h⟩
  have hinner : text.toList.tail.dropLast = inner := by rw [htext, List.tail_cons, List.dropLast_concat]
  unfold ofText?
  dsimp only
  rw [if_neg (by simp [hopen]), if_neg (by simp [hopen, hclose, hhead, hlast]), hinner]
  split
  · rfl
  · rename_i hstar
    refine (if_neg fun hhead => ?_).symm
    obtain ⟨name, hname⟩ := List.head?_eq_some_iff.1 hhead
    exact hstar name hname

private theorem ofText?_eq_none (hfree : ¬ BraceFree text.toList)
    (hbraced : ¬ ∃ inner, text.toList = '{' :: (inner ++ ['}']) ∧ BraceFree inner) : ofText? text = none := by
  rw [← count_eq_zero_iff_braceFree] at hfree
  rw [← count_brace_iff, not_and_or, not_and_or, not_and_or] at hbraced
  unfold ofText?
  dsimp only
  rw [if_neg hfree, if_pos hbraced]

/-- What a text spells is read of it, and nothing else. -/
theorem ofText?_eq_some_iff : ofText? text = some segment ↔ Spells text segment := by
  constructor
  · intro h
    by_cases hfree : BraceFree text.toList
    · rw [ofText?_of_braceFree hfree] at h
      cases h
      exact .literal hfree
    by_cases hbraced : ∃ inner, text.toList = '{' :: (inner ++ ['}']) ∧ BraceFree inner
    · obtain ⟨inner, htext, hinner⟩ := hbraced
      rw [ofText?_of_braced htext hinner] at h
      split at h
      · rename_i hstar
        cases h
        obtain ⟨name, rfl⟩ := List.head?_eq_some_iff.1 hstar
        have hname : text = "\x7b*" ++ String.ofList name ++ "\x7d" := by
          rw [← String.toList_inj, htext]
          simp
        rw [hname]
        exact .tail (by simpa [BraceFree] using hinner)
      · rename_i hstar
        cases h
        have hname : text = "\x7b" ++ String.ofList inner ++ "\x7d" := by
          rw [← String.toList_inj, htext]
          simp
        rw [hname]
        exact .param (by rwa [String.toList_ofList]) (by rwa [String.toList_ofList])
    · rw [ofText?_eq_none hfree hbraced] at h
      cases h
  · intro h
    cases h with
    | literal h => exact ofText?_of_braceFree h
    | param h hstar => rw [ofText?_of_braced (by simp) h, if_neg hstar, String.ofList_toList]
    | @tail name h =>
      have hfree : BraceFree ('*' :: name.toList) := by simpa [BraceFree] using h
      rw [ofText?_of_braced (by simp) hfree, if_pos List.head?_cons, List.tail_cons, String.ofList_toList]

theorem Spells.unique {segment' : Segment} (h : Spells text segment) (h' : Spells text segment') :
    segment = segment' := by
  rw [← ofText?_eq_some_iff] at h h'
  exact Option.some.inj (h.symm.trans h')

end Segment

namespace Pattern

/-! ### The grammar -/

/-- The names of the parameters. -/
def names (segments : List Segment) : List String := segments.filterMap Segment.name?

/-- The parameters have different names, and only the last segment may be a wildcard. -/
structure Orderly (segments : List Segment) : Prop where
  named : "" ∉ names segments
  distinct : (names segments).Nodup
  tailLast : ∀ segment ∈ segments.dropLast, segment.isTail = false

/-- The text is a pattern of these segments: it starts with a slash, and its non-empty parts between slashes spell
them. -/
structure Grammatical (text : String) (segments : List Segment) : Prop where
  slash : text.toList.head? = some '/'
  spelled : ∃ parts, SlashedInto text parts ∧ List.Forall₂ Segment.Spells parts segments
  orderly : Orderly segments

/-- One of the texts spells a parameter of the name. -/
def NameIn (texts : List String) (name : String) : Prop :=
  ∃ text ∈ texts, ∃ segment, Segment.Spells text segment ∧ segment.name? = some name

/-- What is wrong with a text after others, which is the last or not; of several faults the first counts. -/
inductive Fault (pattern : String) (earlier : List String) (text : String) (last : Prop) : PatternError → Prop where
  | unbalancedBrace (h : ∀ segment, ¬ Segment.Spells text segment) :
    Fault pattern earlier text last (.unbalancedBrace text)
  | emptyParameter {segment : Segment} (h : Segment.Spells text segment) (hname : segment.name? = some "") :
    Fault pattern earlier text last (.emptyParameter pattern)
  | duplicateParameter {segment : Segment} {name : String} (h : Segment.Spells text segment)
    (hname : segment.name? = some name) (hne : name ≠ "") (hearlier : NameIn earlier name) :
    Fault pattern earlier text last (.duplicateParameter name pattern)
  | wildcardNotLast {name : String} (h : Segment.Spells text (.tail name)) (hne : name ≠ "")
    (hnew : ¬ NameIn earlier name) (hlast : ¬ last) : Fault pattern earlier text last (.wildcardNotLast name pattern)

/-- The first text after the earlier ones with which something is wrong. -/
def FirstFault (pattern : String) (earlier texts : List String) (e : PatternError) : Prop :=
  ∃ before text after, texts = before ++ text :: after ∧
    (∀ before' text' after', before = before' ++ text' :: after' →
      ∀ e', ¬ Fault pattern (earlier ++ before') text' False e') ∧
    Fault pattern (earlier ++ before) text (after = []) e

/-! ### One segment -/

variable {pattern text : String} {taken earlier texts : List String} {segment : Segment} {segments : List Segment}
  {e : PatternError} {last : Bool}

theorem readSegment_of_not_spells (h : ∀ segment, ¬ Segment.Spells text segment) :
    readSegment pattern taken last text = .error (.unbalancedBrace text) := by
  unfold readSegment
  cases hread : Segment.ofText? text with
  | none => rfl
  | some segment => exact absurd (Segment.ofText?_eq_some_iff.1 hread) (h segment)

theorem readSegment_of_unnamed (h : Segment.Spells text segment) (hname : segment.name? = none) :
    readSegment pattern taken last text = .ok segment := by
  unfold readSegment
  rw [Segment.ofText?_eq_some_iff.2 h]
  dsimp only
  rw [hname]

theorem readSegment_of_named {name : String} (h : Segment.Spells text segment) (hname : segment.name? = some name) :
    readSegment pattern taken last text =
      if name = "" then .error (.emptyParameter pattern)
      else if name ∈ taken then .error (.duplicateParameter name pattern)
      else if segment.isTail && !last then .error (.wildcardNotLast name pattern)
      else .ok segment := by
  unfold readSegment
  rw [Segment.ofText?_eq_some_iff.2 h]
  dsimp only
  rw [hname]

theorem eq_tail_of_isTail {name : String} (htail : segment.isTail = true) (hname : segment.name? = some name) :
    segment = .tail name := by
  cases segment with
  | literal text => cases htail
  | param name => cases htail
  | tail name' =>
    cases hname
    rfl

theorem isTail_of_unnamed (hname : segment.name? = none) : segment.isTail = false := by
  cases segment with
  | literal text => rfl
  | param name => cases hname
  | tail name => cases hname

/-- A segment is read if it is spelled, has a name that is not taken, or none, and may stand where it does. -/
theorem readSegment_eq_ok_iff : readSegment pattern taken last text = .ok segment ↔
    Segment.Spells text segment ∧ (∀ name, segment.name? = some name → name ≠ "" ∧ name ∉ taken) ∧
      (segment.isTail = true → last = true) := by
  constructor
  · intro h
    by_cases hread : ∃ read, Segment.Spells text read
    · obtain ⟨read, hspells⟩ := hread
      cases hname : read.name? with
      | none =>
        rw [readSegment_of_unnamed hspells hname] at h
        cases h
        exact ⟨hspells, by simp [hname], by simp [isTail_of_unnamed hname]⟩
      | some name =>
        rw [readSegment_of_named hspells hname] at h
        split at h
        · cases h
        · rename_i hne
          split at h
          · cases h
          · rename_i hnew
            split at h
            · cases h
            · rename_i htail
              cases h
              refine ⟨hspells, fun name' hname' => ?_, by simpa using htail⟩
              cases hname.symm.trans hname'
              exact ⟨hne, hnew⟩
    · rw [readSegment_of_not_spells fun segment hspells => hread ⟨segment, hspells⟩] at h
      cases h
  · rintro ⟨hspells, hnames, htail⟩
    cases hname : segment.name? with
    | none => exact readSegment_of_unnamed hspells hname
    | some name =>
      obtain ⟨hne, hnew⟩ := hnames name hname
      rw [readSegment_of_named hspells hname, if_neg hne, if_neg hnew, if_neg (by simpa using htail)]

/-- A segment is refused for what is wrong with it, where the names taken are those of the earlier segments. -/
theorem readSegment_eq_error_iff (htaken : ∀ name, name ∈ taken ↔ NameIn earlier name) :
    readSegment pattern taken last text = .error e ↔ Fault pattern earlier text (last = true) e := by
  constructor
  · intro h
    by_cases hread : ∃ segment, Segment.Spells text segment
    · obtain ⟨segment, hspells⟩ := hread
      cases hname : segment.name? with
      | none =>
        rw [readSegment_of_unnamed hspells hname] at h
        cases h
      | some name =>
        rw [readSegment_of_named hspells hname] at h
        split at h
        · rename_i hempty
          cases h
          exact .emptyParameter hspells (hempty ▸ hname)
        · rename_i hne
          split at h
          · rename_i hmem
            cases h
            exact .duplicateParameter hspells hname hne ((htaken name).1 hmem)
          · rename_i hnew
            split at h
            · rename_i htail
              rw [Bool.and_eq_true, Bool.not_eq_true'] at htail
              cases h
              rw [eq_tail_of_isTail htail.1 hname] at hspells
              exact .wildcardNotLast hspells hne (fun h => hnew ((htaken name).2 h)) (by simp [htail.2])
            · cases h
    · have hnone : ∀ segment, ¬ Segment.Spells text segment := fun segment hspells => hread ⟨segment, hspells⟩
      rw [readSegment_of_not_spells hnone] at h
      cases h
      exact .unbalancedBrace hnone
  · intro h
    cases h with
    | unbalancedBrace h => exact readSegment_of_not_spells h
    | emptyParameter h hname => rw [readSegment_of_named h hname, if_pos rfl]
    | duplicateParameter h hname hne hearlier =>
      rw [readSegment_of_named h hname, if_neg hne, if_pos ((htaken _).2 hearlier)]
    | @wildcardNotLast name h hne hnew hlast =>
      have hlate : ((Segment.tail name).isTail && !last) = true := by
        simpa [Segment.isTail] using hlast
      rw [readSegment_of_named h rfl, if_neg hne, if_neg fun hmem => hnew ((htaken name).1 hmem), if_pos hlate]

/-! ### All segments -/

theorem nameIn_append (texts texts' : List String) (name : String) :
    NameIn (texts ++ texts') name ↔ NameIn texts name ∨ NameIn texts' name := by
  simp only [NameIn, List.mem_append, or_and_right, exists_or]

theorem nameIn_singleton (h : Segment.Spells text segment) (name : String) :
    NameIn [text] name ↔ segment.name? = some name := by
  constructor
  · rintro ⟨text', htext, segment', hspells, hname⟩
    rw [List.mem_singleton.1 htext] at hspells
    rwa [h.unique hspells]
  · intro hname
    exact ⟨text, List.mem_singleton_self text, segment, h, hname⟩

theorem names_cons (segment : Segment) (segments : List Segment) :
    names (segment :: segments) = segment.name?.toList ++ names segments := by
  cases h : segment.name? <;> simp [names, h]

theorem orderly_nil : Orderly [] where
  named := by simp [names]
  distinct := by simp [names]
  tailLast := by simp

theorem orderly_cons : Orderly (segment :: segments) ↔
    (∀ name, segment.name? = some name → name ≠ "" ∧ name ∉ names segments) ∧
      (segment.isTail = true → segments = []) ∧ Orderly segments := by
  constructor
  · rintro ⟨hnamed, hdistinct, htail⟩
    rw [names_cons, List.mem_append, not_or, Option.mem_toList] at hnamed
    rw [names_cons, List.nodup_append] at hdistinct
    refine ⟨fun name hname => ⟨?_, fun hmem => ?_⟩, fun hisTail => ?_, hnamed.2, hdistinct.2.1, ?_⟩
    · rintro rfl
      exact hnamed.1 hname
    · exact hdistinct.2.2 name (Option.mem_toList.2 hname) name hmem rfl
    · cases segments with
      | nil => rfl
      | cons next rest =>
        have hnot := htail segment (by simp)
        rw [hisTail] at hnot
        cases hnot
    · intro other hother
      refine htail other ?_
      cases segments with
      | nil => cases hother
      | cons next rest => exact List.mem_cons_of_mem segment hother
  · rintro ⟨hnames, hisTail, hnamed, hdistinct, htail⟩
    constructor
    · rw [names_cons, List.mem_append, not_or, Option.mem_toList]
      exact ⟨fun hname => (hnames "" hname).1 rfl, hnamed⟩
    · rw [names_cons, List.nodup_append]
      refine ⟨by cases segment.name? <;> simp, hdistinct, ?_⟩
      rintro name hname other hother rfl
      exact (hnames name (Option.mem_toList.1 hname)).2 hother
    · intro other hother
      cases segments with
      | nil => cases hother
      | cons next rest =>
        rcases List.mem_cons.1 hother with rfl | hother
        · exact Bool.eq_false_iff.2 fun h => absurd (hisTail h) (List.cons_ne_nil next rest)
        · exact htail other hother

theorem firstFault_cons : FirstFault pattern earlier (text :: texts) e ↔
    Fault pattern earlier text (texts = []) e ∨
      (∀ e', ¬ Fault pattern earlier text (texts = []) e') ∧ FirstFault pattern (earlier ++ [text]) texts e := by
  constructor
  · rintro ⟨before, text', after, heq, hbefore, hfault⟩
    cases before with
    | nil =>
      obtain ⟨rfl, rfl⟩ := List.cons.inj heq
      exact .inl (by simpa using hfault)
    | cons first before =>
      obtain ⟨rfl, rfl⟩ := List.cons.inj heq
      refine .inr ⟨fun e' => ?_, before, text', after, rfl, fun before' text'' after' heq' e' => ?_, ?_⟩
      · simpa using hbefore [] text before rfl e'
      · simpa using hbefore (text :: before') text'' after' (congrArg (text :: ·) heq') e'
      · simpa using hfault
  · rintro (hfault | ⟨hnone, before, text', after, rfl, hbefore, hfault⟩)
    · exact ⟨[], text, texts, rfl, by simp, by simpa using hfault⟩
    · refine ⟨text :: before, text', after, rfl, fun before' text'' after' heq e' => ?_, by simpa using hfault⟩
      cases before' with
      | nil =>
        obtain ⟨rfl, rfl⟩ := List.cons.inj heq
        simpa using hnone e'
      | cons first before' =>
        obtain ⟨rfl, rfl⟩ := List.cons.inj heq
        simpa using hbefore before' text'' after' rfl e'

theorem readSegments_cons_eq_ok_iff : readSegments pattern taken (text :: texts) = .ok segments ↔
    ∃ segment rest, readSegment pattern taken texts.isEmpty text = .ok segment ∧
      readSegments pattern (segment.name?.toList ++ taken) texts = .ok rest ∧ segments = segment :: rest := by
  rw [readSegments]
  cases readSegment pattern taken texts.isEmpty text with
  | error e => simp
  | ok segment =>
    simp only [Except.ok.injEq, exists_and_left, exists_eq_left']
    cases readSegments pattern (segment.name?.toList ++ taken) texts <;> simp [Except.map, eq_comm]

theorem readSegments_cons_eq_error_iff : readSegments pattern taken (text :: texts) = .error e ↔
    readSegment pattern taken texts.isEmpty text = .error e ∨
      ∃ segment, readSegment pattern taken texts.isEmpty text = .ok segment ∧
        readSegments pattern (segment.name?.toList ++ taken) texts = .error e := by
  rw [readSegments]
  cases readSegment pattern taken texts.isEmpty text with
  | error e' => simp
  | ok segment =>
    simp only [Except.ok.injEq, exists_eq_left', reduceCtorEq, false_or]
    cases readSegments pattern (segment.name?.toList ++ taken) texts <;> simp [Except.map]

/-- The segments that are read are spelled one after the other, and orderly. -/
theorem readSegments_eq_ok_iff : readSegments pattern taken texts = .ok segments ↔
    List.Forall₂ Segment.Spells texts segments ∧ Orderly segments ∧ ∀ name ∈ names segments, name ∉ taken := by
  -- along the texts; the names of the segments left are not taken before, nor by the segment just read
  induction texts generalizing taken segments with
  | nil =>
    rw [readSegments, Except.ok.injEq, List.forall₂_nil_left_iff]
    constructor
    · rintro rfl
      exact ⟨rfl, orderly_nil, by simp [names]⟩
    · rintro ⟨rfl, -⟩
      rfl
  | cons text texts ih =>
    simp only [readSegments_cons_eq_ok_iff, readSegment_eq_ok_iff, ih, List.isEmpty_iff]
    constructor
    · rintro ⟨segment, rest, ⟨hspells, hnames, htail⟩, ⟨hrest, horderly, hnew⟩, rfl⟩
      refine ⟨.cons hspells hrest, orderly_cons.2 ⟨fun name hname => ?_, fun hisTail => ?_, horderly⟩, ?_⟩
      · refine ⟨(hnames name hname).1, fun hmem => hnew name hmem ?_⟩
        exact List.mem_append_left _ (Option.mem_toList.2 hname)
      · rw [htail hisTail] at hrest
        exact List.forall₂_nil_left_iff.1 hrest
      · intro name hname
        rw [names_cons, List.mem_append, Option.mem_toList] at hname
        rcases hname with hname | hname
        · exact (hnames name hname).2
        · exact fun hmem => hnew name hname (List.mem_append_right _ hmem)
    · rintro ⟨hspelled, horderly, hnew⟩
      obtain ⟨segment, rest, hspells, hrest, rfl⟩ := List.forall₂_cons_left_iff.1 hspelled
      obtain ⟨hnames, hisTail, horderly⟩ := orderly_cons.1 horderly
      simp only [names_cons, List.mem_append, Option.mem_toList] at hnew
      refine ⟨segment, rest, ⟨hspells, fun name hname => ⟨(hnames name hname).1, hnew name (.inl hname)⟩, fun h => ?_⟩,
        ⟨hrest, horderly, fun name hname hmem => ?_⟩, rfl⟩
      · rw [hisTail h] at hrest
        exact List.forall₂_nil_right_iff.1 hrest
      · rcases List.mem_append.1 hmem with hmem | hmem
        · exact (hnames name (Option.mem_toList.1 hmem)).2 hname
        · exact hnew name (.inr hname) hmem

/-- The fault that is told is the first one.  Along the texts, the names taken stay those of the earlier segments. -/
theorem readSegments_eq_error_iff (htaken : ∀ name, name ∈ taken ↔ NameIn earlier name) :
    readSegments pattern taken texts = .error e ↔ FirstFault pattern earlier texts e := by
  induction texts generalizing taken earlier with
  | nil => simp [readSegments, FirstFault]
  | cons text texts ih =>
    have hread : ∀ e', readSegment pattern taken texts.isEmpty text = .error e' ↔
        Fault pattern earlier text (texts = []) e' := by
      intro e'
      rw [readSegment_eq_error_iff htaken, List.isEmpty_iff]
    rw [readSegments_cons_eq_error_iff, firstFault_cons, hread]
    refine or_congr_right ?_
    -- the rest is looked at only where nothing is wrong with this text
    cases hsegment : readSegment pattern taken texts.isEmpty text with
    | error e' =>
      have hfault := (hread e').1 hsegment
      simp only [reduceCtorEq, false_and, exists_false, false_iff, not_and]
      intro hnone
      exact absurd hfault (hnone e')
    | ok segment =>
      have hnone : ∀ e', ¬ Fault pattern earlier text (texts = []) e' := by
        intro e' hfault
        rw [(hread e').2 hfault] at hsegment
        cases hsegment
      have htaken' : ∀ name, name ∈ segment.name?.toList ++ taken ↔ NameIn (earlier ++ [text]) name := by
        intro name
        rw [List.mem_append, Option.mem_toList, htaken, nameIn_append,
          nameIn_singleton (readSegment_eq_ok_iff.1 hsegment).1, or_comm]
      rw [← ih htaken']
      simp [hnone]

/-- The segments of the text spell those of the pattern. -/
theorem Grammatical.forall₂_spells (h : Grammatical text segments) :
    List.Forall₂ Segment.Spells (pathSegments text) segments := by
  obtain ⟨parts, hparts, hspelled⟩ := h.spelled
  rwa [slashedInto_iff.1 hparts]

/-- A pattern that is read has its text, and the segments that this spells. -/
theorem grammatical_of_parse {read : Pattern} (h : parse text = .ok read) :
    read.text = text ∧ Grammatical text read.segments := by
  unfold parse at h
  split at h
  · rename_i hslash
    cases hread : readSegments text [] (pathSegments text) with
    | error e =>
      rw [hread] at h
      cases h
    | ok segments =>
      rw [hread] at h
      cases h
      obtain ⟨hspelled, horderly, -⟩ := readSegments_eq_ok_iff.1 hread
      exact ⟨rfl, hslash, ⟨_, slashedInto_iff.2 rfl, hspelled⟩, horderly⟩
  · cases h

end Pattern

/-- The patterns that are read are those of the grammar, with their segments; of all others is told the first fault. -/
theorem parse_grammar (text : String) :
    (∀ pattern, Pattern.parse text = .ok pattern ↔
      pattern.text = text ∧ Pattern.Grammatical text pattern.segments) ∧
    ∀ e, Pattern.parse text = .error e ↔
      text.toList.head? ≠ some '/' ∧ e = .missingLeadingSlash text ∨
        text.toList.head? = some '/' ∧ ∃ parts, SlashedInto text parts ∧ Pattern.FirstFault text [] parts e := by
  simp only [slashedInto_iff, exists_eq_left']
  unfold Pattern.parse
  by_cases hslash : text.toList.head? = some '/'
  · have hok : ∀ segments, Pattern.readSegments text [] (pathSegments text) = .ok segments ↔
        Pattern.Grammatical text segments := by
      intro segments
      rw [Pattern.readSegments_eq_ok_iff]
      exact ⟨fun h => ⟨hslash, ⟨_, slashedInto_iff.2 rfl, h.1⟩, h.2.1⟩,
        fun h => ⟨h.forall₂_spells, h.orderly, by simp⟩⟩
    have herror : ∀ e, Pattern.readSegments text [] (pathSegments text) = .error e ↔
        Pattern.FirstFault text [] (pathSegments text) e :=
      fun e => Pattern.readSegments_eq_error_iff (by simp [Pattern.NameIn])
    simp only [← hok, ← herror, hslash]
    cases Pattern.readSegments text [] (pathSegments text) with
    | error e => simp [Except.map]
    | ok segments =>
      refine ⟨fun pattern => ?_, by simp [Except.map]⟩
      obtain ⟨text', segments'⟩ := pattern
      simp [Except.map, eq_comm]
  · rw [if_neg hslash]
    refine ⟨fun pattern => ?_, fun e => ?_⟩
    · simp only [reduceCtorEq, false_iff, not_and]
      exact fun _ h => hslash h.slash
    · simp [hslash, eq_comm]

/-- A name that is taken is told before the place of the wildcard that has it. -/
example : Pattern.parse "/\x7bid\x7d/\x7b*id\x7d/rest" =
    .error (.duplicateParameter "id" "/\x7bid\x7d/\x7b*id\x7d/rest") := by decide +kernel

end CatalogGateway
