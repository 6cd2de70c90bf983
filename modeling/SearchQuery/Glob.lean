import SearchQuery.Regex.Reader

/-!
# Patterns with wildcards

A star stands for any characters of one line and a question mark for one of
them; every other character stands for itself. A pattern without wildcards is a
plain text. A pattern with wildcards is written as a regular expression and read
as one.
-/

namespace SearchQuery

namespace Regex

/-- The character means something in expressions, or is kept for a meaning. -/
def isMeta (c : Char) : Bool :=
  ['\\', '.', '+', '*', '?', '(', ')', '|', '[', ']', '\x7b', '\x7d',
    '^', '$', '#', '&', '-', '~'].contains c

/-- How a character is written that stands for itself. -/
def escapeCharacter (c : Char) : List Char :=
  if isMeta c then ['\\', c] else [c]

/-- How a text is written that stands for itself. -/
def escape (text : String) : String :=
  String.ofList (text.toList.flatMap escapeCharacter)

end Regex

namespace Glob

/-- The character stands for others. -/
def isWildcard (c : Char) : Bool := c = '*' || c = '?'

/-- The pattern has a star or a question mark. -/
def hasWildcards (pattern : String) : Bool := pattern.toList.any isWildcard

/-- The text before the first wildcard, where it is not empty. -/
def stem? (pattern : String) : Option String :=
  match pattern.toList.takeWhile fun c => !isWildcard c with
  | [] => none
  | stem => some (String.ofList stem)

/-- How a wildcard is written in an expression. -/
def wildcardSource (c : Char) : String := if c = '*' then ".*" else "."

/-- Write the rest of a pattern behind the expression so far, where `literal` is
the text since the last wildcard. -/
def write (written literal : String) : List Char → String
  | [] => written ++ Regex.escape literal ++ "$"
  | c :: rest =>
      if isWildcard c then
        write (written ++ Regex.escape literal ++ wildcardSource c) "" rest
      else write written (literal.push c) rest

/-- The expression that covers the texts of a pattern, as it is written. -/
def source (pattern : String) : String := write "^" "" pattern.toList

/-- The expression of a pattern, where it is admitted. -/
def expression? [Regex.Properties] (pattern : String) : Option Regex :=
  Regex.ofText? (source pattern)

end Glob
end SearchQuery
