/-!
# Pieces of text

The texts between the separators of a text.  Put together again they give the text back (`intercalate_pieces`), and none
of them holds a separator (`not_mem_of_mem_pieces`).
-/

namespace CatalogGateway.Text

/-- The texts between the separators of a text; there is always at least one. -/
def pieces (sep : Char) (s : String) : List String := (s.toList.splitOn sep).map String.ofList

/-- The non-empty texts between the separators of a text. -/
def words (sep : Char) (s : String) : List String := (pieces sep s).filter (· ≠ "")

theorem pieces_ne_nil (sep : Char) (s : String) : pieces sep s ≠ [] := by
  simp [pieces, List.splitOn_ne_nil]

theorem intercalate_pieces (sep : Char) (s : String) : (String.singleton sep).intercalate (pieces sep s) = s := by
  rw [← String.toList_inj]
  simp [pieces, Function.comp_def, List.intercalate_splitOn]

private theorem not_mem_of_mem_splitOn {sep : Char} {cs piece : List Char} (h : piece ∈ cs.splitOn sep) :
    sep ∉ piece := by
  induction cs generalizing piece with
  | nil => simp_all
  | cons c rest ih =>
    rw [List.splitOn_cons_eq_if_modifyHead] at h
    by_cases hc : c = sep
    · simp only [hc, beq_self_eq_true, if_true, List.mem_cons] at h
      rcases h with rfl | h
      · simp
      · exact ih h
    · cases hp : rest.splitOn sep with
      | nil => exact absurd hp (List.splitOn_ne_nil sep rest)
      | cons first more =>
        simp only [beq_iff_eq, hc, if_false, hp, List.modifyHead_cons, List.mem_cons] at h
        rcases h with rfl | h
        · have : sep ∉ first := ih (by simp [hp])
          simp [Ne.symm hc, this]
        · exact ih (by simp [hp, h])

theorem not_mem_of_mem_pieces {sep : Char} {s piece : String} (h : piece ∈ pieces sep s) : sep ∉ piece.toList := by
  obtain ⟨cs, hcs, rfl⟩ := List.mem_map.1 h
  simpa using not_mem_of_mem_splitOn hcs

end CatalogGateway.Text
