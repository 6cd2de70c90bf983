/-!
# Blank characters

The characters with the Unicode property `White_Space`, and what is done with
them at the ends of a text and between its words.
-/

namespace SearchQuery
namespace Text

/-- The code points of the Unicode property `White_Space`, as closed ranges. -/
def blankRanges : List (Nat × Nat) :=
  [(0x09, 0x0D), (0x20, 0x20), (0x85, 0x85), (0xA0, 0xA0), (0x1680, 0x1680),
    (0x2000, 0x200A), (0x2028, 0x2029), (0x202F, 0x202F), (0x205F, 0x205F),
    (0x3000, 0x3000)]

/-- A character with the property `White_Space`. -/
def isBlank (c : Char) : Bool :=
  blankRanges.any fun range => range.1 ≤ c.toNat && c.toNat ≤ range.2

/-- Drop the blanks in front. -/
def trimLeft (text : List Char) : List Char := text.dropWhile isBlank

/-- Drop the blanks at both ends. -/
def trim (text : String) : String :=
  String.ofList (trimLeft (trimLeft text.toList).reverse).reverse

/-- The nonblank runs of a text, where `run` is the run being read, reversed. -/
def wordsFrom (run : List Char) : List Char → List String
  | [] => if run.isEmpty then [] else [String.ofList run.reverse]
  | c :: rest =>
      if isBlank c then
        if run.isEmpty then wordsFrom [] rest
        else String.ofList run.reverse :: wordsFrom [] rest
      else wordsFrom (c :: run) rest

/-- The maximal nonblank runs of a text. -/
def words (text : String) : List String := wordsFrom [] text.toList

end Text
end SearchQuery
