import SearchQuery.Regex.CharSet

/-!
# Sets of characters in bytes

The characters of a range, written in UTF-8, are those of a few sequences of
byte ranges: the range is cut where the number of bytes changes and where a byte
before the last one changes.
-/

namespace SearchQuery
namespace Regex

/-- The first and the last of the bytes that can stand at a place. -/
abbrev ByteRange := Nat × Nat

/-- Cut a range behind a code point that lies inside it. -/
def cutBehind (code : Nat) (range : CodeRange) : List CodeRange :=
  if range.1 ≤ code ∧ code < range.2 then [(range.1, code), (code + 1, range.2)]
  else [range]

/-- Cut a range of aligned start into whole blocks and the start of a further
block. -/
def cutLastBlock (size : Nat) (range : CodeRange) : List CodeRange :=
  let start := range.2 - range.2 % size
  if start ≤ range.1 ∨ range.2 + 1 = start + size then [range]
  else [(range.1, start - 1), (start, range.2)]

/-- Cut a range that lies in several blocks into the end of a block, whole
blocks, and the start of a block. -/
def cutBlocks (size : Nat) (range : CodeRange) : List CodeRange :=
  let next := range.1 - range.1 % size + size
  if range.2 < next then [range]
  else if range.1 % size = 0 then cutLastBlock size range
  else (range.1, next - 1) :: cutLastBlock size (next, range.2)

/-- The bytes of a character in UTF-8. -/
def encode (code : Nat) : List Nat :=
  (String.utf8EncodeChar (Char.ofNat code)).map (·.toNat)

/-- The parts of a range whose characters have equally many bytes. -/
def widthRanges (range : CodeRange) : List CodeRange :=
  [0x7F, 0x7FF, 0xFFFF].foldl (fun parts code => parts.flatMap (cutBehind code))
    [range]

/-- The parts of a range that differ freely in their last bytes. -/
def blockRanges (range : CodeRange) : List CodeRange :=
  if range.2 < 0x80 then [range]
  else [Nat.pow 2 6, Nat.pow 2 12, Nat.pow 2 18].foldl
    (fun parts size => parts.flatMap (cutBlocks size)) [range]

/-- The sequences of byte ranges for the characters of a range. -/
def byteSequencesOf (range : CodeRange) : List (List ByteRange) :=
  ((widthRanges range).flatMap blockRanges).map fun part =>
    (encode part.1).zip (encode part.2)

/-- The sequences of byte ranges for the characters of a set, in order. -/
def CharSet.byteSequences (set : CharSet) : List (List ByteRange) :=
  set.ranges.flatMap byteSequencesOf

end Regex
end SearchQuery
