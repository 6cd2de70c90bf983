import SearchQuery.Text.CategoryTable
import SearchQuery.Text.Numeral
import SearchQuery.Text.ScriptTable
import SearchQuery.Text.Word

/-!
# Properties by name

The code points with a property, or with a value of one, as closed ranges. Names
are compared loosely. Known are the general categories and their groups, the
scripts, and the properties of letters and blanks.
-/

namespace SearchQuery
namespace Text

/-- A name in the form in which names are compared: its ASCII letters in lower
case, without an `is` in front and the marks between words. -/
def looseName (name : String) : String :=
  let (front, behind) := name.toList.splitAt 2
  let marked := front.map Char.toLower == ['i', 's']
  let letters := (if marked then behind else name.toList).filter fun c =>
    c.toNat < 0x80 && (['-', '_', ' '].contains c).not
  let loose := String.ofList (letters.map Char.toLower)
  if marked && loose == "c" then "isc" else loose

/-- The name is one of several, compared loosely. -/
def isNamed (name : String) (names : List String) : Bool :=
  names.any fun other => looseName other == looseName name

/-- A run in a table: the number of its code points, and what they have in
common. -/
def readRun (text : String) : Nat × String :=
  let count := text.toList.takeWhile Char.isDigit
  ((digits? count).getD 1,
    String.ofList (text.toList.dropWhile Char.isDigit))

/-- The code points from `next` on that are in wanted runs. -/
def rangesIn (wanted : String → Bool) (next : Nat) :
    List (Nat × String) → List (Nat × Nat)
  | [] => []
  | (count, value) :: rest =>
      let others := rangesIn wanted (next + count) rest
      if wanted value then (next, next + count - 1) :: others else others

/-- The code points in the wanted runs of a table. -/
def tableRanges (table : List String) (wanted : String → Bool) :
    List (Nat × Nat) :=
  rangesIn wanted 0 ((table.flatMap words).map readRun)

/-- The general categories and their groups, each with its other names. No
character is a surrogate, and that category has no set. -/
def categoryNames : List (String × List String) :=
  [("C", ["Other"]), ("Cc", ["Control", "cntrl"]), ("Cf", ["Format"]),
    ("Cn", ["Unassigned"]), ("Co", ["Private_Use"]),
    ("L", ["Letter"]), ("LC", ["Cased_Letter"]), ("Ll", ["Lowercase_Letter"]),
    ("Lm", ["Modifier_Letter"]), ("Lo", ["Other_Letter"]),
    ("Lt", ["Titlecase_Letter"]), ("Lu", ["Uppercase_Letter"]),
    ("M", ["Mark", "Combining_Mark"]), ("Mc", ["Spacing_Mark"]),
    ("Me", ["Enclosing_Mark"]), ("Mn", ["Nonspacing_Mark"]),
    ("N", ["Number"]), ("Nd", ["Decimal_Number", "digit"]),
    ("Nl", ["Letter_Number"]), ("No", ["Other_Number"]),
    ("P", ["Punctuation", "punct"]), ("Pc", ["Connector_Punctuation"]),
    ("Pd", ["Dash_Punctuation"]), ("Pe", ["Close_Punctuation"]),
    ("Pf", ["Final_Punctuation"]), ("Pi", ["Initial_Punctuation"]),
    ("Po", ["Other_Punctuation"]), ("Ps", ["Open_Punctuation"]),
    ("S", ["Symbol"]), ("Sc", ["Currency_Symbol"]), ("Sk", ["Modifier_Symbol"]),
    ("Sm", ["Math_Symbol"]), ("So", ["Other_Symbol"]),
    ("Z", ["Separator"]), ("Zl", ["Line_Separator"]),
    ("Zp", ["Paragraph_Separator"]), ("Zs", ["Space_Separator"])]

/-- The abbreviation under which a table has a name. -/
def abbreviation? (table : List (String × List String)) (name : String) :
    Option String :=
  (table.find? fun entry => isNamed name (entry.1 :: entry.2)).map Prod.fst

/-- A category is in a group, or is the group. -/
def isInGroup (group category : String) : Bool :=
  if group = "LC" then ["Ll", "Lt", "Lu"].contains category
  else group.toList.isPrefixOf category.toList

/-- The code points of the categories in a group. -/
def categoryRanges (group : String) : List (Nat × Nat) :=
  tableRanges categoryRuns (isInGroup group)

/-- The code points of a general category or a group of them. -/
def category? (name : String) : Option (List (Nat × Nat)) :=
  if isNamed name ["Any"] then some [(0, 0x10FFFF)]
  else if isNamed name ["ASCII"] then some [(0, 0x7F)]
  else if isNamed name ["Assigned"] then
    some (tableRanges categoryRuns fun category => category != "Cn")
  else (abbreviation? categoryNames name).map categoryRanges

/-- The code points of a script. -/
def script? (name : String) : Option (List (Nat × Nat)) :=
  (abbreviation? scriptNames name).map fun script =>
    tableRanges scriptRuns fun other => other == script

/-- The lower case code points that are no lower case letters. -/
def otherLowercaseRanges : List (Nat × Nat) :=
  [(0xAA, 0xAA), (0xBA, 0xBA), (0x2B0, 0x2B8), (0x2C0, 0x2C1), (0x2E0, 0x2E4),
    (0x345, 0x345), (0x37A, 0x37A), (0x10FC, 0x10FC), (0x1D2C, 0x1D6A),
    (0x1D78, 0x1D78), (0x1D9B, 0x1DBF), (0x2071, 0x2071), (0x207F, 0x207F),
    (0x2090, 0x209C), (0x2170, 0x217F), (0x24D0, 0x24E9), (0x2C7C, 0x2C7D),
    (0xA69C, 0xA69D), (0xA770, 0xA770), (0xA7F2, 0xA7F4), (0xA7F8, 0xA7F9),
    (0xAB5C, 0xAB5F), (0xAB69, 0xAB69), (0x10780, 0x10780), (0x10783, 0x10785),
    (0x10787, 0x107B0), (0x107B2, 0x107BA), (0x1E030, 0x1E06D)]

/-- The upper case code points that are no upper case letters. -/
def otherUppercaseRanges : List (Nat × Nat) :=
  [(0x2160, 0x216F), (0x24B6, 0x24CF), (0x1F130, 0x1F149), (0x1F150, 0x1F169),
    (0x1F170, 0x1F189)]

/-- The code points with a property that holds or does not hold. -/
def property? (name : String) : Option (List (Nat × Nat)) :=
  if isNamed name ["Alphabetic", "Alpha"] then some alphabeticRanges
  else if isNamed name ["Lowercase", "Lower"] then
    some (categoryRanges "Ll" ++ otherLowercaseRanges)
  else if isNamed name ["Uppercase", "Upper"] then
    some (categoryRanges "Lu" ++ otherUppercaseRanges)
  else if isNamed name ["White_Space", "WSpace", "space"] then some blankRanges
  else none

end Text
end SearchQuery
