import SearchQuery.Text.CaseFold
import SearchQuery.Text.Word

/-!
# Sets of characters

The sets that a regular expression can name, as increasing closed ranges of code
points that do not touch each other. Surrogates are no characters and belong to
no set, so every set has exactly one list of ranges.
-/

namespace SearchQuery
namespace Regex

/-- The first and the last of a run of code points. -/
abbrev CodeRange := Nat × Nat

/-- The last code point. -/
def lastCode : Nat := 0x10FFFF

/-- A set of characters. -/
structure CharSet where
  ranges : List CodeRange
  deriving DecidableEq

namespace CharSet

/-- Put a range among increasing ranges, joined with those that it touches. -/
def insertRange (first last : Nat) : List CodeRange → List CodeRange
  | [] => [(first, last)]
  | next :: rest =>
      if last + 1 < next.1 then (first, last) :: next :: rest
      else if next.2 + 1 < first then next :: insertRange first last rest
      else insertRange (min first next.1) (max last next.2) rest

/-- The characters of a range, which surrogates can cut in two. -/
def characterRanges (range : CodeRange) : List CodeRange :=
  [(range.1, min range.2 0xD7FF), (max range.1 0xE000, range.2)].filter
    fun part => part.1 ≤ part.2

/-- Add the characters of a range. -/
def insert (set : CharSet) (range : CodeRange) : CharSet :=
  ⟨(characterRanges range).foldr
    (fun part ranges => insertRange part.1 part.2 ranges)
    set.ranges⟩

/-- The set without characters. -/
def empty : CharSet := ⟨[]⟩

/-- Add the characters of several ranges. -/
def insertAll (set : CharSet) (ranges : List CodeRange) : CharSet :=
  ranges.foldr (fun range set => set.insert range) set

/-- The set of the characters in some range of a list. -/
def ofRanges (ranges : List CodeRange) : CharSet := empty.insertAll ranges

/-- The characters from one to another. -/
def interval (first last : Char) : CharSet :=
  ofRanges [(first.toNat, last.toNat)]

/-- The set of one character. -/
def single (c : Char) : CharSet := interval c c

/-- Membership of a character. -/
def contains (set : CharSet) (c : Char) : Bool :=
  Text.inRanges set.ranges c.toNat

/-- No character is in the set. -/
def isEmpty (set : CharSet) : Bool := set.ranges.isEmpty

/-- Only ASCII characters are in the set. -/
def isAscii (set : CharSet) : Bool := set.ranges.all fun range => range.2 < 0x80

/-- The only character of a set. -/
def single? (set : CharSet) : Option Char :=
  match set.ranges with
  | [(first, last)] => if first = last then some (Char.ofNat first) else none
  | _ => none

/-- The code points from `next` on that lie between ranges or behind them. -/
def gaps (next : Nat) : List CodeRange → List CodeRange
  | [] => if next ≤ lastCode then [(next, lastCode)] else []
  | range :: rest =>
      if next < range.1 then (next, range.1 - 1) :: gaps (range.2 + 1) rest
      else gaps (range.2 + 1) rest

/-- The characters outside a set. -/
def complement (set : CharSet) : CharSet := ofRanges (gaps 0 set.ranges)

/-- The characters in some of two sets. -/
def union (a b : CharSet) : CharSet := a.insertAll b.ranges

/-- The characters in both of two sets. -/
def inter (a b : CharSet) : CharSet :=
  (a.complement.union b.complement).complement

/-- The characters in the first set that are not in the second. -/
def difference (a b : CharSet) : CharSet := a.inter b.complement

/-- The characters in exactly one of two sets. -/
def symmetricDifference (a b : CharSet) : CharSet :=
  (a.difference b).union (b.difference a)

/-- The set with all characters that differ from one of it only in case. -/
def anyCase (set : CharSet) : CharSet :=
  set.insertAll <| set.ranges.flatMap fun range =>
    (Text.caseVariantsIn range.1 range.2).map fun code => (code, code)

/-- The part of a range inside another, moved up or down. -/
def shiftedPart (range bounds : CodeRange) (offset : Int) : List CodeRange :=
  let first := max range.1 bounds.1
  let last := min range.2 bounds.2
  if first ≤ last then [((first + offset).toNat, (last + offset).toNat)] else []

/-- The set with the other case of its ASCII letters. -/
def anyAsciiCase (set : CharSet) : CharSet :=
  set.insertAll <| set.ranges.flatMap fun range =>
    shiftedPart range (0x41, 0x5A) 0x20 ++
      shiftedPart range (0x61, 0x7A) (-0x20)

/-- The decimal digits of all scripts. -/
def digit : CharSet := ofRanges Text.decimalDigitRanges

/-- The blank characters. -/
def blank : CharSet := ofRanges Text.blankRanges

/-- The characters in words. -/
def word : CharSet :=
  ofRanges
    (Text.joiningRanges ++ Text.decimalDigitRanges ++ Text.alphabeticRanges)

/-- The characters of several closed ranges. -/
def ofIntervals (intervals : List (Char × Char)) : CharSet :=
  ofRanges (intervals.map fun interval => (interval.1.toNat, interval.2.toNat))

/-- The sets with a name in brackets and colons, all inside ASCII. -/
def named? (name : String) : Option CharSet :=
  if name = "alnum" then some (ofIntervals [('0', '9'), ('A', 'Z'), ('a', 'z')])
  else if name = "alpha" then some (ofIntervals [('A', 'Z'), ('a', 'z')])
  else if name = "ascii" then some (ofIntervals [('\x00', '\x7f')])
  else if name = "blank" then some (ofIntervals [('\t', '\t'), (' ', ' ')])
  else if name = "cntrl" then
    some (ofIntervals [('\x00', '\x1f'), ('\x7f', '\x7f')])
  else if name = "digit" then some (ofIntervals [('0', '9')])
  else if name = "graph" then some (ofIntervals [('!', '~')])
  else if name = "lower" then some (ofIntervals [('a', 'z')])
  else if name = "print" then some (ofIntervals [(' ', '~')])
  else if name = "punct" then
    some (ofIntervals [('!', '/'), (':', '@'), ('[', '\x60'), ('\x7b', '~')])
  else if name = "space" then some (ofIntervals [('\t', '\r'), (' ', ' ')])
  else if name = "upper" then some (ofIntervals [('A', 'Z')])
  else if name = "word" then
    some (ofIntervals [('0', '9'), ('A', 'Z'), ('_', '_'), ('a', 'z')])
  else if name = "xdigit" then
    some (ofIntervals [('0', '9'), ('A', 'F'), ('a', 'f')])
  else none

end CharSet
end Regex
end SearchQuery
