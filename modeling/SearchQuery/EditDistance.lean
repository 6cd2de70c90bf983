/-!
# Edit distance

Both distances are computed row by row: a row holds the distances from one
initial segment of the first text to all initial segments of the second. The
second distance also counts a swap of neighbours as one edit, for which it looks
two rows back.
-/

namespace SearchQuery
namespace EditDistance

/-- The cost of putting one character for another. -/
def substitution (a b : Char) : Nat := if a = b then 0 else 1

/-- The entries of a row after its first. The last entry written is `left`, and
the row above begins over it. -/
def rowAfter (a : Char) : Nat → List Char → List Nat → List Nat
  | left, b :: text, diagonal :: above :: rest =>
      let entry :=
        min (min (above + 1) (left + 1)) (diagonal + substitution a b)
      entry :: rowAfter a entry text (above :: rest)
  | _, _, _ => []

/-- The row after one more character of the first text. -/
def nextRow (text : List Char) (row : List Nat) (a : Char) : List Nat :=
  let first := row.headD 0 + 1
  first :: rowAfter a first text row

/-- The row of the empty text. -/
def firstRow (text : List Char) : List Nat := List.range (text.length + 1)

/-- The last entry of the last row, where the rows lie along the second text. -/
def lastEntry (first second : List Char) : Nat :=
  (first.foldl (nextRow second) (firstRow second)).getLastD 0

/-- The least number of insertions, deletions and substitutions of characters
between two texts. The rows lie along the shorter text. -/
def levenshtein (first second : String) : Nat :=
  if first.toList.length ≤ second.toList.length then
    lastEntry second.toList first.toList
  else lastEntry first.toList second.toList

/-- The entries of a row after its first, with swaps. `previous` is the
character of the first text before `a`, `last` the one of the second text before
the next, and `back` begins with the entry two rows up and two columns to the
left. -/
def swapRowAfter (previous : Option Char) (a : Char) :
    Nat → Option Char → List Char → List Nat → List Nat → List Nat
  | left, last, b :: text, diagonal :: above :: rest, back =>
      let plain :=
        min (min (above + 1) (left + 1)) (diagonal + substitution a b)
      let entry :=
        match back with
        | corner :: _ =>
            if last = some a ∧ previous = some b then
              min plain (corner + substitution a b)
            else plain
        | [] => plain
      entry :: swapRowAfter previous a entry (some b) text
        (above :: rest) back.tail
  | _, _, _, _, _ => []

/-- Two rows, the older one moved by one column, and the last character read. -/
structure SwapRows where
  previous : Option Char
  back : List Nat
  row : List Nat

/-- The rows after one more character of the first text. -/
def SwapRows.next (text : List Char) (rows : SwapRows) (a : Char) : SwapRows :=
  let first := rows.row.headD 0 + 1
  ⟨some a, 0 :: rows.row,
    first :: swapRowAfter rows.previous a first none text rows.row rows.back⟩

/-- The least number of insertions, deletions, substitutions and swaps of
neighbours, where no character takes part in two edits. -/
def alignment (first second : String) : Nat :=
  let text := second.toList
  (first.toList.foldl (SwapRows.next text)
    ⟨none, [], firstRow text⟩).row.getLastD 0

end EditDistance
end SearchQuery
