import SearchQuery.Leaf.Pattern
import SearchQuery.Proofs.Alignments

/-!
# Rows of least costs

Both distances are computed row by row. Every row holds the least costs of
aligning an initial segment of the first text with all initial segments of the
second, so that the last entry of the last row is the least cost for the two
texts. With swaps a row is found from the two rows before it.
-/

namespace SearchQuery
namespace EditDistance

/-- A row holds the least costs of aligning a text with the initial segments of
another, from the segment `done` on. -/
inductive IsRow (swaps : Bool) (first : List Char) :
    List Char → List Char → List Nat → Prop
  | last {done : List Char} {entry : Nat}
    (least : IsLeast (costs swaps first done) entry) :
      IsRow swaps first done [] [entry]
  | more {done rest : List Char} {b : Char} {entry : Nat} {row : List Nat}
      (least : IsLeast (costs swaps first done) entry)
      (behind : IsRow swaps first (done ++ [b]) rest row) :
      IsRow swaps first done (b :: rest) (entry :: row)

namespace IsRow

variable {swaps : Bool} {first done rest : List Char} {row : List Nat}

theorem exists_cons (isRow : IsRow swaps first done rest row) :
    ∃ entry behind, row = entry :: behind ∧
      IsLeast (costs swaps first done) entry := by
  cases isRow with
  | last least => exact ⟨_, _, rfl, least⟩
  | more least behind => exact ⟨_, _, rfl, least⟩

/-- A row ends with the least cost for the whole text. -/
theorem isLeast_getLastD (isRow : IsRow swaps first done rest row) :
    IsLeast (costs swaps first (done ++ rest)) (row.getLastD 0) := by
  induction isRow with
  | last least =>
      rw [List.append_nil]
      exact least
  | more least behind hypothesis =>
      obtain ⟨entry, others, rfl, _⟩ := behind.exists_cons
      rw [List.append_cons]
      exact hypothesis

end IsRow

/-- The row of the empty text holds the lengths of the initial segments. -/
theorem isRow_firstRow (swaps : Bool) (text : List Char) :
    IsRow swaps [] [] text (firstRow text) := by
  have fromSegment : ∀ done rest : List Char,
      IsRow swaps [] done rest (List.range' done.length (rest.length + 1)) := by
    intro done rest
    induction rest generalizing done with
    | nil => exact .last (isLeast_costs_nil_left swaps done)
    | cons b rest hypothesis =>
        have behind := hypothesis (done ++ [b])
        rw [List.length_append] at behind
        exact .more (isLeast_costs_nil_left swaps done) behind
  rw [firstRow, List.range_eq_range']
  exact fromSegment [] text

/-- The first entry of a row is one more than that of the row before it. -/
theorem IsRow.isLeast_headD
    {swaps : Bool}
    {first rest : List Char}
    {row : List Nat}
    (isRow : IsRow swaps first [] rest row)
    (a : Char) :
    IsLeast (costs swaps (first ++ [a]) []) (row.headD 0 + 1) := by
  obtain ⟨entry, others, rfl, least⟩ := isRow.exists_cons
  have isLength : entry = first.length :=
    least.unique (isLeast_costs_nil_right swaps first)
  have deletes := isLeast_costs_nil_right swaps (first ++ [a])
  rw [List.length_append] at deletes
  rw [List.headD_cons, isLength]
  exact deletes

/-! ### Without swaps -/

/-- The entries of a row are found from its first and from the row before it. -/
theorem isRow_cons_rowAfter
    {first done rest : List Char}
    {row : List Nat}
    {a : Char}
    {left : Nat}
    (isRow : IsRow false first done rest row)
    (before : IsLeast (costs false (first ++ [a]) done) left) :
    IsRow false (first ++ [a]) done rest
      (left :: rowAfter a left rest row) := by
  induction isRow generalizing left with
  | last least => exact .last before
  | more least behind hypothesis =>
      obtain ⟨up, others, rfl, above⟩ := behind.exists_cons
      exact .more before
        (hypothesis (isLeast_costs_concat above before least Bool.noConfusion))

theorem isRow_nextRow
    {first text : List Char}
    {row : List Nat}
    (isRow : IsRow false first [] text row)
    (a : Char) :
    IsRow false (first ++ [a]) [] text (nextRow text row a) :=
  isRow_cons_rowAfter isRow (isRow.isLeast_headD a)

/-- The last entry of the last row is the least cost of an alignment without
swaps. -/
theorem isLeast_costs_lastEntry (first second : List Char) :
    IsLeast (costs false first second) (lastEntry first second) := by
  have rows : ∀ done rest row, IsRow false done [] second row →
      IsRow false (done ++ rest) [] second
        (rest.foldl (nextRow second) row) := by
    intro done rest row isRow
    induction rest generalizing done row with
    | nil =>
        rw [List.append_nil]
        exact isRow
    | cons a rest hypothesis =>
        rw [List.append_cons]
        exact hypothesis _ _ (isRow_nextRow isRow a)
  exact (rows [] first _ (isRow_firstRow false second)).isLeast_getLastD

/-- The distance without swaps is the least cost of an alignment without swaps,
along whichever text the rows lie. -/
theorem isLeast_costs_levenshtein (first second : String) :
    IsLeast (costs false first.toList second.toList)
      (levenshtein first second) := by
  unfold levenshtein
  split
  · rw [costs_comm]
    exact isLeast_costs_lastEntry second.toList first.toList
  · exact isLeast_costs_lastEntry first.toList second.toList

/-! ### With swaps -/

/-- An entry of a row, given the least of what the steps other than swaps lead
to. The entry two rows and two columns back is at the beginning of `back`. -/
def swapEntry (previous last : Option Char) (a b : Char) (plain : Nat) :
    List Nat → Nat
  | corner :: _ =>
      if last = some a ∧ previous = some b then
        min plain (corner + substitution a b)
      else plain
  | [] => plain

/-- The entries of a row are found one after the other. -/
theorem swapRowAfter_cons
    (previous last : Option Char)
    (a b : Char)
    (left diagonal above : Nat)
    (text : List Char)
    (row back : List Nat) :
    swapRowAfter previous a left last (b :: text)
      (diagonal :: above :: row) back =
      let entry := swapEntry previous last a b
        (min (min (above + 1) (left + 1)) (diagonal + substitution a b)) back
      entry :: swapRowAfter previous a entry (some b) text
        (above :: row) back.tail := by
  cases back <;> rfl

/-- What the computation of a row remembers at the segment `done`: the last
characters of the two texts so far and, if there are such, the row two before,
beginning at the segment without its last character. -/
inductive LooksBack :
    List Char → List Char → List Char → Option Char → Option Char →
      List Nat → Prop
  | top {done rest : List Char} {last : Option Char} :
    LooksBack [] done rest none last []
  | start {first rest : List Char} {c : Char} {spare : Nat} {row : List Nat}
      (isRow : IsRow true first [] rest row) :
      LooksBack (first ++ [c]) [] rest (some c) none (spare :: row)
  | within {first done rest : List Char} {c d : Char} {row : List Nat}
      (isRow : IsRow true first done (d :: rest) row) :
      LooksBack (first ++ [c]) (done ++ [d]) rest (some c) (some d) row

namespace LooksBack

variable {first done rest : List Char} {previous last : Option Char}
  {a b : Char}
  {back : List Nat} {up left corner : Nat}

/-- What is remembered at the next segment. -/
theorem tail (looks : LooksBack first done (b :: rest) previous last back) :
    LooksBack first (done ++ [b]) rest previous (some b) back.tail := by
  cases looks with
  | top => exact .top
  | start isRow => exact .within isRow
  | within isRow =>
      cases isRow with
      | more least behind => exact .within behind

/-- An entry is the least cost if those that it is found from are. -/
theorem isLeast_swapEntry
    (looks : LooksBack first done (b :: rest) previous last back)
    (above : IsLeast (costs true first (done ++ [b])) up)
    (before : IsLeast (costs true (first ++ [a]) done) left)
    (diagonal : IsLeast (costs true first done) corner) :
    IsLeast (costs true (first ++ [a]) (done ++ [b]))
      (swapEntry previous last a b
        (min (min (up + 1) (left + 1)) (corner + substitution a b)) back) := by
  cases looks with
  | top =>
      refine isLeast_costs_concat above before diagonal
        fun _ front behind isFirst => ?_
      exact absurd isFirst.symm
        (List.append_ne_nil_of_right_ne_nil _ (List.cons_ne_nil b []))
  | start isRow =>
      rw [swapEntry, if_neg (by rintro ⟨⟨⟩, _⟩)]
      refine isLeast_costs_concat above before diagonal
        fun _ front behind _ isSecond => ?_
      exact absurd isSecond.symm
        (List.append_ne_nil_of_right_ne_nil _ (List.cons_ne_nil a []))
  | @within first done _ c d row isRow =>
      obtain ⟨far, others, rfl, twoBack⟩ := isRow.exists_cons
      rw [swapEntry]
      split
      · rename_i both
        obtain ⟨⟨⟩, ⟨⟩⟩ := both
        exact isLeast_costs_concat_swap above before diagonal twoBack
      · rename_i notBoth
        refine isLeast_costs_concat above before diagonal
          fun _ front behind isFirst isSecond => ?_
        obtain ⟨_, ⟨⟩⟩ := List.append_inj' isFirst rfl
        obtain ⟨_, ⟨⟩⟩ := List.append_inj' isSecond rfl
        exact notBoth ⟨rfl, rfl⟩

end LooksBack

/-- The entries of a row are found from its first and from the two rows before
it. -/
theorem isRow_cons_swapRowAfter
    {first done rest : List Char}
    {row back : List Nat}
    {previous last : Option Char}
    {a : Char}
    {left : Nat}
    (isRow : IsRow true first done rest row)
    (looks : LooksBack first done rest previous last back)
    (before : IsLeast (costs true (first ++ [a]) done) left) :
    IsRow true (first ++ [a]) done rest
      (left :: swapRowAfter previous a left last rest row back) := by
  induction isRow generalizing left last back with
  | last least => exact .last before
  | more least behind hypothesis =>
      obtain ⟨up, others, rfl, above⟩ := behind.exists_cons
      rw [swapRowAfter_cons]
      exact .more before
        (hypothesis looks.tail (looks.isLeast_swapEntry above before least))

/-- The rows that are kept are those of an initial segment of the first text. -/
structure SwapRows.AreRows (first text : List Char) (rows : SwapRows) :
    Prop where
  isRow : IsRow true first [] text rows.row
  looksBack : LooksBack first [] text rows.previous none rows.back

/-- The rows for the next segment are found from those that are kept. -/
theorem SwapRows.AreRows.next
    {first text : List Char}
    {rows : SwapRows}
    (areRows : rows.AreRows first text)
    (a : Char) :
    (rows.next text a).AreRows (first ++ [a]) text where
  isRow :=
    isRow_cons_swapRowAfter areRows.isRow areRows.looksBack
      (areRows.isRow.isLeast_headD a)
  looksBack := .start areRows.isRow

/-- The distance with swaps is the least cost of an alignment. -/
theorem isLeast_costs_alignment (first second : String) :
    IsLeast (costs true first.toList second.toList)
      (alignment first second) := by
  have tables : ∀ done rest rows, SwapRows.AreRows done second.toList rows →
      SwapRows.AreRows (done ++ rest) second.toList
        (rest.foldl (SwapRows.next second.toList) rows) := by
    intro done rest rows areRows
    induction rest generalizing done rows with
    | nil =>
        rw [List.append_nil]
        exact areRows
    | cons a rest hypothesis =>
        rw [List.append_cons]
        exact hypothesis _ _ (areRows.next a)
  exact (tables [] first.toList _ ⟨isRow_firstRow true second.toList,
    .top⟩).isRow.isLeast_getLastD

end EditDistance

open EditDistance

/-- A word is near a term if it shares the required characters and few enough
edits lie between them. -/
theorem Matcher.accepts_near_iff (near : NearWord) (term : String) :
    (Matcher.near near).accepts term = .ok true ↔
      near.requiredStem.isPrefixOf term.toList = true ∧
        near.distance term ≤ near.maxDistance := by
  have isDecided : (Matcher.near near).accepts term =
      .ok (near.accepts term) := rfl
  rw [isDecided, Except.ok.injEq, NearWord.accepts, Bool.and_eq_true,
    decide_eq_true_iff]

namespace EditDistance

/-- A swap is no more than two substitutions and may be less, so that the
distance with swaps is at most the one without, and at least half of it. -/
theorem alignment_le_and_le (first second : String) :
    alignment first second ≤ levenshtein first second ∧
      levenshtein first second ≤ 2 * alignment first second := by
  have plain := isLeast_costs_levenshtein first second
  have swapped := isLeast_costs_alignment first second
  constructor
  · exact swapped.2 (costs_false_subset _ _ plain.1)
  · obtain ⟨other, isCost, atMostTwice⟩ := exists_mem_costs_false_le swapped.1
    exact (plain.2 isCost).trans atMostTwice

/-- A least cost is the same from either text, and zero for equal texts only. -/
theorem least_comm_and_eq_zero_iff
    {swaps : Bool}
    {distance : String → String → Nat}
    (least : ∀ first second,
      IsLeast (costs swaps first.toList second.toList) (distance first second))
    (first second : String) :
    distance second first = distance first second ∧
      (distance first second = 0 ↔ first = second) := by
  constructor
  · refine (least second first).unique ?_
    rw [costs_comm]
    exact least first second
  · constructor
    · intro isZero
      have isCost := (least first second).1
      rw [isZero, zero_mem_costs_iff] at isCost
      exact String.toList_injective isCost
    · rintro rfl
      exact Nat.le_zero.mp ((least first first).2 (zero_mem_costs_iff.mpr rfl))

/-- The distance with swaps is the least cost of an alignment. It is the same
from either text, zero for equal texts only, at most the distance without swaps
and at least half of it, and a word is near every term with swaps that it is
near without them. -/
theorem alignment_isLeast (first second : String) :
    IsLeast (costs true first.toList second.toList) (alignment first second) ∧
      alignment second first = alignment first second ∧
      (alignment first second = 0 ↔ first = second) ∧
      alignment first second ≤ levenshtein first second ∧
      levenshtein first second ≤ 2 * alignment first second ∧
      ∀ (plain swapping : NearWord) (term : String), swapping.word =
        plain.word →
        swapping.fuzziness = plain.fuzziness → swapping.prefixLength =
          plain.prefixLength →
        plain.transpositions = false → swapping.transpositions = true →
        (Matcher.near plain).accepts term = .ok true →
        (Matcher.near swapping).accepts term = .ok true := by
  obtain ⟨symmetric, isZero⟩ :=
    least_comm_and_eq_zero_iff isLeast_costs_alignment first second
  obtain ⟨atMost, atLeast⟩ := alignment_le_and_le first second
  refine ⟨isLeast_costs_alignment first second, symmetric, isZero, atMost,
    atLeast, ?_⟩
  intro plain swapping term sameWord sameFuzziness samePrefix isPlain
    isSwapping accepted
  rw [Matcher.accepts_near_iff] at accepted ⊢
  have distances : swapping.distance term ≤ plain.distance term := by
    rw [NearWord.distance, NearWord.distance, isPlain, isSwapping, sameWord]
    exact (alignment_le_and_le plain.word term).1
  have allowance : plain.maxDistance = swapping.maxDistance := by
    rw [NearWord.maxDistance, NearWord.maxDistance, sameFuzziness, sameWord]
  constructor
  · rw [NearWord.requiredStem, sameWord, samePrefix]
    exact accepted.1
  · exact distances.trans (accepted.2.trans_eq allowance)

/-- The word `form` is near `farm` within one edit after the first character,
with swaps as without, and it is one swap or two substitutions from `from`. -/
theorem alignment_isLeast_form :
    let plain : NearWord := ⟨"form", .distance 1, 1, 50, false⟩
    let swapping : NearWord := ⟨"form", .distance 1, 1, 50, true⟩
    (Matcher.near plain).accepts "farm" = .ok true ∧
      (Matcher.near swapping).accepts "farm" = .ok true ∧
      alignment "form" "from" = 1 ∧ levenshtein "form" "from" = 2 ∧
      1 ∈ costs true "form".toList "from".toList := by
  intro plain swapping
  have accepted : (Matcher.near plain).accepts "farm" = .ok true := by
    rw [Matcher.accepts_near_iff]
    decide
  have isOne : alignment "form" "from" = 1 := by decide
  obtain ⟨least, _, _, _, _, near⟩ := alignment_isLeast "form" "from"
  rw [isOne] at least
  exact ⟨accepted, near plain swapping "farm" rfl rfl rfl rfl rfl accepted,
    isOne, by decide, least.1⟩

end EditDistance
end SearchQuery
