import SearchQuery.Regex.Normal
import SearchQuery.Regex.Property
import SearchQuery.Text.Numeral

/-!
# Symbols of regular expressions

A symbol is a character, an escape, the dot, or the mark of a line's start or
end. Flags decide what a symbol stands for. With the flag `x`, blanks and
comments between the symbols are skipped.

Each function takes the text that is left and gives the text after what it read.
-/

namespace SearchQuery
namespace Regex

/-- The modes that flags switch. -/
structure Flags where
  ignoreCase : Bool
  multiLine : Bool
  dotMatchesNewline : Bool
  carriageReturn : Bool
  unicode : Bool
  extended : Bool
  swapGreed : Bool

namespace Flags

/-- The modes at the start of an expression. -/
def initial : Flags := ⟨false, false, false, false, true, false, false⟩

/-- Switch the mode of a flag letter. -/
def switch? (flags : Flags) (letter : Char) (on : Bool) : Option Flags :=
  match letter with
  | 'i' => some { flags with ignoreCase := on }
  | 'm' => some { flags with multiLine := on }
  | 's' => some { flags with dotMatchesNewline := on }
  | 'R' => some { flags with carriageReturn := on }
  | 'u' => some { flags with unicode := on }
  | 'x' => some { flags with extended := on }
  | 'U' => some { flags with swapGreed := on }
  | _ => none

/-- A set under the current mode for case, which knows only ASCII without
Unicode. -/
def applyCase (flags : Flags) (characters : CharSet) : CharSet :=
  if !flags.ignoreCase then characters
  else if flags.unicode then characters.anyCase
  else characters.anyAsciiCase

/-- The condition at the start of a line, or of the text outside multi-line
mode. -/
def lineStart (flags : Flags) : Assertion :=
  if !flags.multiLine then .textStart
  else if flags.carriageReturn then .returnLineStart
  else .lineStart

/-- The condition at the end of a line, or of the text outside multi-line
mode. -/
def lineEnd (flags : Flags) : Assertion :=
  if !flags.multiLine then .textEnd
  else if flags.carriageReturn then .returnLineEnd
  else .lineEnd

/-- The characters that the dot stands for, which are all but line ends or all.
Without Unicode there is no such set. -/
def dot? (flags : Flags) : Option CharSet :=
  if !flags.unicode then none
  else if flags.dotMatchesNewline then some CharSet.empty.complement
  else if flags.carriageReturn then
    some ((CharSet.single '\n').union (.single '\r')).complement
  else some (CharSet.single '\n').complement

end Flags

/-- Skip a comment up to its line end. -/
def skipComment : List Char → List Char
  | [] => []
  | c :: rest => if c = '\n' then rest else skipComment rest

theorem length_skipComment_le (text : List Char) :
    (skipComment text).length ≤ text.length := by
  induction text with
  | nil => simp [skipComment]
  | cons c rest ih =>
      simp only [skipComment, List.length_cons]
      split <;> omega

/-- Skip blanks and comments where the mode says so. -/
def skipIgnored (extended : Bool) : List Char → List Char
  | [] => []
  | c :: rest =>
      if extended && Text.isBlank c then skipIgnored extended rest
      else if extended && c = '#' then skipIgnored extended (skipComment rest)
      else c :: rest
termination_by text => text.length
decreasing_by
  · simp
  · have := length_skipComment_le rest
    simp only [List.length_cons]
    omega

/-- What is left after skipping is no longer than the text. -/
theorem length_skipIgnored_le (extended : Bool) (text : List Char) :
    (skipIgnored extended text).length ≤ text.length := by
  fun_induction skipIgnored extended text with
  | case1 => simp
  | case2 c rest _ hypothesis => exact Nat.le_succ_of_le hypothesis
  | case3 c rest _ _ hypothesis =>
      have := length_skipComment_le rest
      simp only [List.length_cons]
      omega
  | case4 => simp

/-- The character with a code point given in hexadecimal digits. -/
def hexCharacter? (digits : List Char) : Option Char := do
  let value (c : Char) : Option Nat :=
    if c.isDigit then some (c.toNat - '0'.toNat)
    else if 'a' ≤ c ∧ c ≤ 'f' then some (c.toNat - 'a'.toNat + 10)
    else if 'A' ≤ c ∧ c ≤ 'F' then some (c.toNat - 'A'.toNat + 10)
    else none
  let values ← digits.mapM value
  let code := values.foldl (fun code digit => 16 * code + digit) 0
  guard (digits ≠ [] ∧ code.isValidChar)
  return Char.ofNat code

/-- A number of characters, with ignored ones skipped between them. -/
def takeExactly? (extended : Bool) :
    Nat → List Char → Option (List Char × List Char)
  | 0, text => some ([], text)
  | count + 1, text =>
      match text with
      | [] => none
      | c :: rest =>
          (takeExactly? extended count (skipIgnored extended rest)).map
            fun (taken, rest) => (c :: taken, rest)

/-- The characters up to a closing brace, with ignored ones skipped, and the
text after it. -/
def takeToBrace? (extended : Bool) (text : List Char) :
    Option (List Char × List Char) :=
  match _skipped : skipIgnored extended text with
  | [] => none
  | '\x7d' :: rest => some ([], skipIgnored extended rest)
  | c :: rest =>
      (takeToBrace? extended rest).map fun (taken, rest) => (c :: taken, rest)
termination_by text.length
decreasing_by
  have := length_skipIgnored_le extended text
  simp only [_skipped, List.length_cons] at this
  omega

/-- A single symbol: a character, a set, or a condition on a place. -/
inductive Symbol
  | literal (c : Char)
  | set (characters : CharSet)
  | assertion (condition : Assertion)

/-- A digit, blank or word class, or its complement for a capital letter.
Without Unicode the classes are those of ASCII, and a complement would leave
it. -/
def letterClass? (flags : Flags) (letter : Char) : Option CharSet :=
  let class? :=
    match letter.toLower with
    | 'd' =>
        if flags.unicode then some CharSet.digit else CharSet.named? "digit"
    | 's' =>
        if flags.unicode then some CharSet.blank else CharSet.named? "space"
    | _ => if flags.unicode then some CharSet.word else CharSet.named? "word"
  if letter.isUpper then
    if flags.unicode then class?.map CharSet.complement else none
  else class?

/-- The names of word conditions in braces after `\b`. -/
def namedBoundary? (ascii : Bool) (name : String) : Option Assertion :=
  if name = "start" then some (.wordStart ascii)
  else if name = "end" then some (.wordEnd ascii)
  else if name = "start-half" then some (.wordStartHalf ascii)
  else if name = "end-half" then some (.wordEndHalf ascii)
  else none

/-- The character can stand in the name of a boundary. -/
def isBoundaryLetter (c : Char) : Bool := c.isAlpha || c = '-'

/-- A word boundary, after the letter `b`: braces with a name inside choose a
special one, and other braces are a count. -/
def boundary? (flags : Flags) (text : List Char) :
    Option (Symbol × List Char) :=
  let plain := some (Symbol.assertion (.wordBoundary !flags.unicode), text)
  match text with
  | '\x7b' :: rest =>
      match skipIgnored flags.extended rest with
      | [] => none
      | c :: _ =>
          if isBoundaryLetter c then do
            let (name, rest) ← takeToBrace? flags.extended rest
            guard (name.all isBoundaryLetter)
            let condition ← namedBoundary? (!flags.unicode) (String.ofList name)
            return (.assertion condition, rest)
          else plain
  | _ => plain

/-- The character of an escape with `\x`, `\u` or `\U`: digits in braces, or
exactly as many as the letter asks for. Without Unicode, two digits are a byte
and stay in ASCII. -/
def hexEscape? (flags : Flags) (count : Nat) (text : List Char) :
    Option (Symbol × List Char) :=
  match skipIgnored flags.extended text with
  | '\x7b' :: more => do
      let (digits, rest) ← takeToBrace? flags.extended more
      return (.literal (← hexCharacter? digits), rest)
  | more => do
      let (digits, rest) ← takeExactly? flags.extended count more
      let c ← hexCharacter? digits
      guard (flags.unicode ∨ count ≠ 2 ∨ c.toNat < 0x80)
      return (.literal c, rest)

section Properties

variable [Properties]

/-- The characters that a question is for, or the other ones, in the modes for
case. Without Unicode there are no such sets. -/
def propertySet? (flags : Flags) (negated : Bool) (query : PropertyQuery) :
    Option CharSet :=
  if flags.unicode then
    (Properties.characters? query).map fun characters =>
      let characters := flags.applyCase characters
      if negated then characters.complement else characters
  else none

/-- The set of an escape with `\p`, or with `\P` for the other characters: a
letter names a property, and braces hold a question. -/
def propertyEscape? (flags : Flags) (negated : Bool) (text : List Char) :
    Option (Symbol × List Char) :=
  match skipIgnored flags.extended text with
  | [] => none
  | '\\' :: _ => none
  | '\x7b' :: more => do
      let (name, rest) ← takeToBrace? flags.extended more
      let (different, query) := PropertyQuery.read name
      let characters ← propertySet? flags (negated != different) query
      return (.set characters, rest)
  | letter :: rest => do
      let query := PropertyQuery.having (String.singleton letter)
      let characters ← propertySet? flags negated query
      return (.set characters, skipIgnored flags.extended rest)

/-- The symbol after a backslash. Punctuation stands for itself; a letter or
digit needs a meaning. -/
def escape? (flags : Flags) : List Char → Option (Symbol × List Char)
  | [] => none
  | c :: rest =>
      let literal (c : Char) := some (Symbol.literal c, rest)
      let place (condition : Assertion) :=
        some (Symbol.assertion condition, rest)
      match c with
      | 'x' => hexEscape? flags 2 rest
      | 'u' => hexEscape? flags 4 rest
      | 'U' => hexEscape? flags 8 rest
      | 'p' => propertyEscape? flags false rest
      | 'P' => propertyEscape? flags true rest
      | 'd' | 's' | 'w' | 'D' | 'S' | 'W' =>
          (letterClass? flags c).map fun characters => (.set characters, rest)
      | 'a' => literal '\x07'
      | 'f' => literal '\x0c'
      | 't' => literal '\t'
      | 'n' => literal '\n'
      | 'r' => literal '\r'
      | 'v' => literal '\x0b'
      | 'A' => place .textStart
      | 'z' => place .textEnd
      | 'b' => boundary? flags rest
      | 'B' => place (.notWordBoundary !flags.unicode)
      | '<' => place (.wordStart !flags.unicode)
      | '>' => place (.wordEnd !flags.unicode)
      | _ => if c.toNat < 0x80 ∧ !c.isAlphanum then literal c else none

/-- A symbol outside brackets. -/
def symbol? (flags : Flags) : List Char → Option (Symbol × List Char)
  | [] => none
  | '\\' :: rest => escape? flags rest
  | '.' :: rest => flags.dot?.map fun characters => (.set characters, rest)
  | '^' :: rest => some (.assertion flags.lineStart, rest)
  | '$' :: rest => some (.assertion flags.lineEnd, rest)
  | c :: rest => some (.literal c, rest)

end Properties

/-- The expression of a symbol. -/
def Symbol.expression (flags : Flags) : Symbol → Regex
  | .literal c => ofSet (flags.applyCase (.single c))
  | .set characters => ofSet characters
  | .assertion condition => .assertion condition

end Regex
end SearchQuery
