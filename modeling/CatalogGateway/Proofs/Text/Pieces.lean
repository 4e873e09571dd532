import CatalogGateway.Text.Pieces

/-!
# Putting texts together from their pieces

Texts without separators, put together with separators, fall into the same pieces again (`pieces_intercalate`).  So the
words of a text put together are the text exactly if none of its pieces is empty (`intercalate_words`), and each text adds
its own words to those of the whole (`words_intercalate`).  There is an empty
piece where the text is empty, where it starts or ends with a separator, and between two separators in a row
(`empty_mem_pieces`).  Separators may also be longer than one character (`split_intercalate`).
-/

namespace CatalogGateway.Text

theorem pieces_append (sep : Char) (s t : String) :
    pieces sep (s ++ String.singleton sep ++ t) = pieces sep s ++ pieces sep t := by
  have hsplit := List.splitOn_append_cons_self (a := sep) s.toList t.toList
  unfold pieces
  rw [String.toList_append, String.toList_append, String.toList_singleton, List.append_assoc, List.singleton_append,
    hsplit, List.map_append]

theorem words_append (sep : Char) (s t : String) :
    words sep (s ++ String.singleton sep ++ t) = words sep s ++ words sep t := by
  rw [words, pieces_append, List.filter_append]
  rfl

/-- A text that does not start with a separator starts with a word. -/
theorem words_ne_nil {sep c : Char} {s : String} (hs : s.toList.head? = some c) (hc : c ≠ sep) : words sep s ≠ [] := by
  obtain ⟨rest, hrest⟩ := List.head?_eq_some_iff.1 hs
  have hfirst : ∃ cs, String.ofList (c :: cs) ∈ pieces sep s := by
    cases hsplit : rest.splitOn sep with
    | nil => exact absurd hsplit (List.splitOn_ne_nil sep rest)
    | cons first more =>
      refine ⟨first, List.mem_map.2 ⟨_, ?_, rfl⟩⟩
      rw [hrest, List.splitOn_cons_eq_if_modifyHead, hsplit]
      simp [hc]
  obtain ⟨cs, hpiece⟩ := hfirst
  have hword : String.ofList (c :: cs) ∈ words sep s := List.mem_filter.2 ⟨hpiece, by simp⟩
  exact List.ne_nil_of_mem hword

theorem pieces_intercalate {sep : Char} {l : List String} (hne : l ≠ []) (h : ∀ piece ∈ l, sep ∉ piece.toList) :
    pieces sep ((String.singleton sep).intercalate l) = l := by
  have hlists : ∀ cs ∈ l.map String.toList, sep ∉ cs := by
    intro cs hcs
    obtain ⟨piece, hpiece, rfl⟩ := List.mem_map.1 hcs
    exact h piece hpiece
  have hsplit := List.splitOn_intercalate sep hlists (by simpa using hne)
  unfold pieces
  rw [String.toList_intercalate, String.toList_singleton, hsplit, List.map_map]
  exact (List.map_congr_left fun piece _ => String.ofList_toList).trans (List.map_id l)

/-- The words of texts put together are the words of each of them. -/
theorem words_intercalate (sep : Char) (l : List String) :
    words sep ((String.singleton sep).intercalate l) = l.flatMap (words sep) := by
  induction l with
  | nil => rfl
  | cons s rest ih =>
    cases rest with
    | nil => rw [String.intercalate_singleton, List.flatMap_singleton]
    | cons next more =>
      rw [String.intercalate_cons_cons, words_append, ih]
      rfl

/-- A word of a text is its own only word. -/
theorem words_of_mem_words {sep : Char} {s word : String} (h : word ∈ words sep s) : words sep word = [word] := by
  obtain ⟨hpiece, hne⟩ := List.mem_filter.1 h
  have hpieces : pieces sep ((String.singleton sep).intercalate [word]) = [word] := by
    refine pieces_intercalate (List.cons_ne_nil word []) fun piece hmem => ?_
    rw [List.mem_singleton.1 hmem]
    exact not_mem_of_mem_pieces hpiece
  rw [String.intercalate_singleton] at hpieces
  rw [words, hpieces]
  exact List.filter_cons_of_pos hne

/-- The words of a text, put together, leave out its empty pieces. -/
theorem intercalate_words {sep : Char} {s : String} (hne : words sep s ≠ []) :
    (String.singleton sep).intercalate (words sep s) = s ↔ "" ∉ pieces sep s := by
  constructor
  · intro h hempty
    have hpieces := pieces_intercalate hne fun piece hpiece =>
      not_mem_of_mem_pieces (List.mem_filter.1 hpiece).1
    rw [h] at hpieces
    rw [hpieces] at hempty
    have hword := (List.mem_filter.1 hempty).2
    exact absurd rfl (of_decide_eq_true hword)
  · intro h
    have hall : words sep s = pieces sep s := by
      refine List.filter_eq_self.2 fun piece hpiece => decide_eq_true ?_
      rintro rfl
      exact h hpiece
    rw [hall, intercalate_pieces]

/-! ### Empty pieces -/

private theorem nil_mem_splitOn {sep : Char} {cs : List Char} :
    [] ∈ cs.splitOn sep ↔ cs = [] ∨ cs.head? = some sep ∨ [] ∈ (cs.splitOn sep).tail := by
  cases cs with
  | nil => simp
  | cons c rest =>
    rw [List.splitOn_cons_eq_if_modifyHead]
    by_cases hc : c = sep
    · simp [hc]
    · cases hsplit : rest.splitOn sep with
      | nil => exact absurd hsplit (List.splitOn_ne_nil sep rest)
      | cons first more => simp [hc]

/-- After the first piece there is an empty one if the text ends with a separator or has two of them in a row. -/
private theorem nil_mem_tail_splitOn {sep : Char} {cs : List Char} :
    [] ∈ (cs.splitOn sep).tail ↔ cs.getLast? = some sep ∨ [sep, sep] <:+: cs := by
  induction cs with
  | nil => simp
  | cons c rest ih =>
    rw [List.splitOn_cons_eq_if_modifyHead, List.infix_cons_iff]
    -- a separator at the front makes all pieces of the rest later ones, any other character joins the first
    by_cases hc : c = sep
    · subst hc
      rw [beq_self_eq_true, if_pos rfl, List.tail_cons, nil_mem_splitOn, ih]
      cases rest with
      | nil => simp
      | cons next more => simp [List.getLast?_cons_cons, List.cons_prefix_cons, eq_comm, or_left_comm]
    · have hprefix : ¬ [sep, sep] <+: c :: rest := by
        rw [List.cons_prefix_cons]
        rintro ⟨rfl, -⟩
        exact hc rfl
      have hlast : (c :: rest).getLast? = some sep ↔ rest.getLast? = some sep := by
        cases rest with
        | nil => simp [hc]
        | cons next more => rw [List.getLast?_cons_cons]
      cases hsplit : rest.splitOn sep with
      | nil => exact absurd hsplit (List.splitOn_ne_nil sep rest)
      | cons first more =>
        rw [hsplit] at ih
        simpa [hc, hprefix, hlast] using ih

theorem empty_mem_pieces {sep : Char} {s : String} :
    "" ∈ pieces sep s ↔
      s = "" ∨ s.toList.head? = some sep ∨ s.toList.getLast? = some sep ∨ [sep, sep] <:+: s.toList := by
  have hnil : "" ∈ pieces sep s ↔ [] ∈ s.toList.splitOn sep := by
    constructor
    · intro h
      obtain ⟨cs, hcs, hempty⟩ := List.mem_map.1 h
      rwa [← String.ofList_inj.1 hempty]
    · exact fun h => List.mem_map.2 ⟨[], h, rfl⟩
  rw [hnil, nil_mem_splitOn, nil_mem_tail_splitOn, String.toList_eq_nil_iff]

/-! ### Separators of several characters -/

/-- What stands between the occurrences of a separator, which are looked for from left to right; a number of characters
at the front is passed over. -/
def splitFrom (sep : List Char) : Nat → List Char → List (List Char)
  | _, [] => [[]]
  | passed + 1, _ :: rest => splitFrom sep passed rest
  | 0, c :: rest =>
    if sep.isPrefixOf (c :: rest) then [] :: splitFrom sep (sep.length - 1) rest
    else (splitFrom sep 0 rest).modifyHead (c :: ·)

/-- The texts between the occurrences of a separator, which is not empty. -/
def split (sep s : String) : List String := (splitFrom sep.toList 0 s.toList).map String.ofList

section

variable {sep piece : List Char} {first : Char} {more : List Char}

private theorem splitFrom_length (passed rest : List Char) :
    splitFrom sep passed.length (passed ++ rest) = splitFrom sep 0 rest := by
  induction passed with
  | nil => rfl
  | cons c passed ih => exact ih

/-- A character with which the separator does not start joins the first piece. -/
private theorem splitFrom_cons {c : Char} (hc : first ≠ c) (rest : List Char) :
    splitFrom (first :: more) 0 (c :: rest) = (splitFrom (first :: more) 0 rest).modifyHead (c :: ·) := by
  rw [splitFrom, List.isPrefixOf_cons_cons, beq_eq_false_iff_ne.2 hc, Bool.false_and, if_neg Bool.false_ne_true]

private theorem splitFrom_of_not_mem (h : first ∉ piece) : splitFrom (first :: more) 0 piece = [piece] := by
  induction piece with
  | nil => rfl
  | cons c rest ih =>
    rw [List.mem_cons, not_or] at h
    rw [splitFrom_cons h.1, ih h.2, List.modifyHead_cons]

private theorem splitFrom_append (h : first ∉ piece) (rest : List Char) :
    splitFrom (first :: more) 0 (piece ++ (first :: more) ++ rest) = piece :: splitFrom (first :: more) 0 rest := by
  induction piece with
  | nil =>
    have hprefix : (first :: more).isPrefixOf (first :: (more ++ rest)) = true := by
      rw [List.isPrefixOf_iff_prefix, ← List.cons_append]
      exact List.prefix_append _ _
    rw [List.nil_append, List.cons_append, splitFrom, if_pos hprefix, List.length_cons, Nat.add_sub_cancel,
      splitFrom_length]
  | cons c piece ih =>
    rw [List.mem_cons, not_or] at h
    rw [List.cons_append, List.cons_append, splitFrom_cons h.1, ih h.2, List.modifyHead_cons]

private theorem splitFrom_intercalate {pieces : List (List Char)} (hne : pieces ≠ [])
    (h : ∀ piece ∈ pieces, first ∉ piece) :
    splitFrom (first :: more) 0 ((first :: more).intercalate pieces) = pieces := by
  induction pieces with
  | nil => exact absurd rfl hne
  | cons piece rest ih =>
    rw [List.forall_mem_cons] at h
    cases rest with
    | nil => rw [List.intercalate_singleton, splitFrom_of_not_mem h.1]
    | cons next later => rw [List.intercalate_cons_cons, splitFrom_append h.1, ih (List.cons_ne_nil _ _) h.2]

end

/-- Texts in which the separator cannot start, put together with separators, are split into the same texts again. -/
theorem split_intercalate {sep : String} {first : Char} (hfirst : sep.toList.head? = some first) {l : List String}
    (hne : l ≠ []) (h : ∀ s ∈ l, first ∉ s.toList) : split sep (sep.intercalate l) = l := by
  obtain ⟨more, hsep⟩ := List.head?_eq_some_iff.1 hfirst
  have hlists : ∀ cs ∈ l.map String.toList, first ∉ cs := List.forall_mem_map.2 h
  unfold split
  rw [String.toList_intercalate, hsep, splitFrom_intercalate (mt List.map_eq_nil_iff.1 hne) hlists, List.map_map]
  exact (List.map_congr_left fun s _ => String.ofList_toList).trans (List.map_id l)

example : split ", " "GET, PUT, " = ["GET", "PUT", ""] := by decide

end CatalogGateway.Text
