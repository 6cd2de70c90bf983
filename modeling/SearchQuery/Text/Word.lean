import SearchQuery.Text.Blank
import SearchQuery.Text.WordTable

/-!
# Classes of characters in words

Membership in the word classes of Unicode, and in the same classes cut down to
ASCII.
-/

namespace SearchQuery
namespace Text

/-- The code point lies in one of the closed ranges. -/
def inRanges (ranges : List (Nat × Nat)) (code : Nat) : Bool :=
  ranges.any fun range => range.1 ≤ code && code ≤ range.2

/-- A decimal digit of some script. -/
def isDecimalDigit (c : Char) : Bool := inRanges decimalDigitRanges c.toNat

/-- The character has the property of being alphabetic. -/
def isAlphabetic (c : Char) : Bool := inRanges alphabeticRanges c.toNat

/-- A letter or a number of any kind. -/
def isAlphanumeric (c : Char) : Bool :=
  isAlphabetic c || isDecimalDigit c || inRanges otherNumberRanges c.toNat

/-- A letter, mark, decimal digit, connector punctuation or join control. -/
def isWordCharacter (c : Char) : Bool :=
  isAlphabetic c || isDecimalDigit c || inRanges joiningRanges c.toNat

end Text
end SearchQuery
