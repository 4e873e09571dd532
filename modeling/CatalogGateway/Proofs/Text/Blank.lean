import CatalogGateway.Text.Blank

/-!
# Texts between blanks

A text is some blanks, a text with none at its ends, and some blanks again.  The text in the middle is what trimming
leaves (`trims_iff`).
-/

namespace CatalogGateway.Text

/-- No blank at either end. -/
def IsTrimmed (cs : List Char) : Prop :=
  (∀ c ∈ cs.head?, isBlank c = false) ∧ ∀ c ∈ cs.getLast?, isBlank c = false

/-- What a text is but for the blanks around it. -/
structure Trims (s core : String) : Prop where
  between : ∃ before after, (∀ c ∈ before, isBlank c = true) ∧ (∀ c ∈ after, isBlank c = true) ∧
    s.toList = before ++ core.toList ++ after
  trimmed : IsTrimmed core.toList

private theorem dropWhile_of_head? {cs : List Char} (h : ∀ c ∈ cs.head?, isBlank c = false) :
    cs.dropWhile isBlank = cs := by
  cases cs with
  | nil => rfl
  | cons c rest => simp [h c rfl]

private theorem head?_dropWhile {cs : List Char} : ∀ c ∈ (cs.dropWhile isBlank).head?, isBlank c = false := by
  intro c hc
  have hnot := cs.head?_dropWhile_not isBlank
  rw [hc] at hnot
  exact hnot

theorem trimChars_append {before core after : List Char} (hbefore : ∀ c ∈ before, isBlank c = true)
    (hafter : ∀ c ∈ after, isBlank c = true) (hcore : IsTrimmed core) :
    trimChars (before ++ core ++ after) = core := by
  obtain ⟨hhead, hlast⟩ := hcore
  cases core with
  | nil =>
    have hall : ∀ c ∈ before ++ after, isBlank c = true := by
      intro c hc
      rcases List.mem_append.1 hc with hc | hc
      · exact hbefore c hc
      · exact hafter c hc
    have hnil : (before ++ after).dropWhile isBlank = [] := by
      rw [← List.append_nil (before ++ after), List.dropWhile_append_of_pos hall]
      rfl
    simp [trimChars, hnil]
  | cons c rest =>
    have hfront : (before ++ (c :: rest) ++ after).dropWhile isBlank = (c :: rest) ++ after := by
      rw [List.append_assoc, List.dropWhile_append_of_pos hbefore]
      exact dropWhile_of_head? hhead
    have hback : ((c :: rest) ++ after).reverse.dropWhile isBlank = (c :: rest).reverse := by
      rw [List.reverse_append, List.dropWhile_append_of_pos (by simpa using hafter)]
      exact dropWhile_of_head? (by rwa [List.head?_reverse])
    rw [trimChars, hfront, hback, List.reverse_reverse]

theorem exists_append_trimChars (cs : List Char) : ∃ before after, (∀ c ∈ before, isBlank c = true) ∧
    (∀ c ∈ after, isBlank c = true) ∧ cs = before ++ trimChars cs ++ after := by
  have hblank : ∀ l : List Char, ∀ c ∈ l.takeWhile isBlank, isBlank c = true :=
    fun l => List.all_eq_true.1 List.all_takeWhile
  have hrest : cs.dropWhile isBlank = trimChars cs ++ ((cs.dropWhile isBlank).reverse.takeWhile isBlank).reverse := by
    rw [← List.reverse_inj, List.reverse_append, List.reverse_reverse, trimChars, List.reverse_reverse,
      List.takeWhile_append_dropWhile]
  refine ⟨cs.takeWhile isBlank, ((cs.dropWhile isBlank).reverse.takeWhile isBlank).reverse, hblank cs, ?_, ?_⟩
  · intro c hc
    exact hblank _ c (List.mem_reverse.1 hc)
  · rw [List.append_assoc, ← hrest, List.takeWhile_append_dropWhile]

theorem isTrimmed_trimChars (cs : List Char) : IsTrimmed (trimChars cs) := by
  constructor
  · -- what is left begins as what is left of the front does
    have hhead : ∀ c ∈ (cs.dropWhile isBlank).head?, isBlank c = false := head?_dropWhile
    obtain ⟨more, hmore⟩ : trimChars cs <+: cs.dropWhile isBlank := by
      rw [trimChars, ← List.reverse_suffix, List.reverse_reverse]
      exact List.dropWhile_suffix _
    intro c hc
    refine hhead c ?_
    rw [← hmore, List.head?_append, hc]
    rfl
  · intro c hc
    rw [trimChars, List.getLast?_reverse] at hc
    exact head?_dropWhile c hc

theorem trims_iff {s core : String} : Trims s core ↔ trim s = core := by
  constructor
  · rintro ⟨⟨before, after, hbefore, hafter, hs⟩, htrimmed⟩
    rw [trim, hs, trimChars_append hbefore hafter htrimmed, String.ofList_toList]
  · rintro rfl
    obtain ⟨before, after, hbefore, hafter, hs⟩ := exists_append_trimChars s.toList
    refine ⟨⟨before, after, hbefore, hafter, ?_⟩, ?_⟩
    · rw [toList_trim, ← hs]
    · rw [toList_trim]
      exact isTrimmed_trimChars _

theorem trim_eq_empty_iff {s : String} : trim s = "" ↔ ∀ c ∈ s.toList, isBlank c = true := by
  rw [← trims_iff]
  constructor
  · rintro ⟨⟨before, after, hbefore, hafter, hs⟩, -⟩ c hc
    rw [hs] at hc
    simp only [String.toList_empty, List.append_nil, List.mem_append] at hc
    rcases hc with hc | hc
    · exact hbefore c hc
    · exact hafter c hc
  · intro hblank
    exact ⟨⟨s.toList, [], hblank, by simp, by simp⟩, by simp [IsTrimmed]⟩

end CatalogGateway.Text
