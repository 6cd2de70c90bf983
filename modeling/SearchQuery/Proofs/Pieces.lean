import SearchQuery.Text.Numeral

/-!
# Pieces of texts

A text is split at the occurrences of a separator. No piece has the separator in
it, the pieces give the text when they are joined, and pieces without the
separator are split apart again. At the first occurrence a text is split to what
stands before it and what stands after it.
-/

namespace SearchQuery
namespace Text

/-- The pieces of a text are those that a separator splits it into. -/
theorem split_eq_splitOn (separator : Char) (text : List Char) :
    split separator text = text.splitOn separator := by
  induction text with
  | nil => rfl
  | cons c rest hypothesis =>
      rw [split, hypothesis, List.splitOn_cons_eq_if_modifyHead]
      by_cases isSeparator : c = separator
      · rw [if_pos isSeparator, if_pos (beq_iff_eq.mpr isSeparator)]
      · rw [if_neg isSeparator, if_neg (mt beq_iff_eq.mp isSeparator)]
        cases pieces : rest.splitOn separator with
        | nil => exact absurd pieces (List.splitOn_ne_nil _ _)
        | cons piece pieces => rfl

/-- No piece has the separator in it. -/
theorem notMem_of_mem_split
    {separator : Char}
    {text piece : List Char}
    (isPiece : piece ∈ split separator text) :
    separator ∉ piece := by
  induction text generalizing piece with
  | nil =>
      rw [List.mem_singleton.mp isPiece]
      exact List.not_mem_nil
  | cons c rest hypothesis =>
      rw [split] at isPiece
      split at isPiece
      · rcases List.mem_cons.mp isPiece with rfl | isLater
        · exact List.not_mem_nil
        · exact hypothesis isLater
      · rename_i differs
        have isOther : separator ≠ c :=
          fun isSeparator => differs isSeparator.symm
        cases pieces : split separator rest with
        | nil =>
            rw [pieces] at isPiece
            rw [List.mem_singleton.mp isPiece, List.mem_singleton]
            exact isOther
        | cons first others =>
            rw [pieces] at isPiece hypothesis
            rcases List.mem_cons.mp isPiece with rfl | isLater
            · exact List.not_mem_cons_of_ne_of_not_mem isOther
                (hypothesis List.mem_cons_self)
            · exact hypothesis (List.mem_cons_of_mem first isLater)

theorem intercalate_split (separator : Char) (text : List Char) :
    [separator].intercalate (split separator text) = text := by
  rw [split_eq_splitOn, List.intercalate_splitOn]

theorem split_intercalate
    {separator : Char}
    {pieces : List (List Char)}
    (plain : ∀ piece ∈ pieces, separator ∉ piece)
    (nonempty : pieces ≠ []) :
    split separator ([separator].intercalate pieces) = pieces := by
  rw [split_eq_splitOn, List.splitOn_intercalate separator plain nonempty]

/-- A text is split at the first occurrence of a separator, if there is one. -/
theorem splitFirst?_eq (separator : Char) (text : List Char) :
    splitFirst? separator text = (text.dropWhile (· ≠ separator)).tail?.map
      fun rest => (text.takeWhile (· ≠ separator), rest) := by
  induction text with
  | nil => rfl
  | cons c rest hypothesis =>
      rw [splitFirst?, hypothesis]
      by_cases isSeparator : c = separator
      · simp [isSeparator]
      · simp [isSeparator, Function.comp_def]

end Text
end SearchQuery
