import SearchQuery.Json.Number

/-!
# Reading JSON text

Of two members with one key the later value stands. Every step of the reader
takes at least one character, so the length of the text bounds the number of
steps.
-/

namespace SearchQuery
namespace Json

/-- The blanks of the grammar. -/
def isSpace (c : Char) : Bool := c = ' ' ∨ c = '\n' ∨ c = '\r' ∨ c = '\t'

/-- The text without the white space that it begins with. -/
def skipSpace (text : List Char) : List Char := text.dropWhile isSpace

/-- The value of a hexadecimal digit. -/
def hexDigit? (c : Char) : Option Nat :=
  if c.isDigit then some (c.toNat - '0'.toNat)
  else if 'a' ≤ c ∧ c ≤ 'f' then some (c.toNat - 'a'.toNat + 10)
  else if 'A' ≤ c ∧ c ≤ 'F' then some (c.toNat - 'A'.toNat + 10)
  else none

/-- Four hexadecimal digits, and the rest. -/
def hexFour? : List Char → Option (Nat × List Char)
  | a :: b :: c :: d :: rest => do
      let value := (← hexDigit? a) * 4096 + (← hexDigit? b) * 256 +
        (← hexDigit? c) * 16
        + (← hexDigit? d)
      return (value, rest)
  | _ => none

/-- The character that a one-letter escape stands for. -/
def unescape? : Char → Option Char
  | '"' => some '"'
  | '\\' => some '\\'
  | '/' => some '/'
  | 'b' => some '\x08'
  | 'f' => some '\x0c'
  | 'n' => some '\n'
  | 'r' => some '\r'
  | 't' => some '\t'
  | _ => none

/-- A character given by UTF-16 units: one unit, or a pair of surrogates. -/
def unicodeEscape? (text : List Char) : Option (Char × List Char) := do
  let (first, rest) ← hexFour? text
  if 0xD800 ≤ first ∧ first < 0xDC00 then
    match rest with
    | '\\' :: 'u' :: more =>
        let (second, rest) ← hexFour? more
        guard (0xDC00 ≤ second ∧ second < 0xE000)
        return (Char.ofNat
          (0x10000 + (first - 0xD800) * 1024 + (second - 0xDC00)), rest)
    | _ => none
  else
    guard (first < 0xD800 ∨ 0xE000 ≤ first)
    return (Char.ofNat first, rest)

/-- The rest of a quoted text, after what is read of it in `taken`, reversed. -/
def readText (fuel : Nat) (taken : List Char) (text : List Char) :
    Option (String × List Char) :=
  match fuel, text with
  | _, '"' :: rest => some (String.ofList taken.reverse, rest)
  | fuel + 1, '\\' :: 'u' :: rest => do
      let (c, rest) ← unicodeEscape? rest
      readText fuel (c :: taken) rest
  | fuel + 1, '\\' :: letter :: rest => do
      let c ← unescape? letter
      readText fuel (c :: taken) rest
  | fuel + 1, c :: rest =>
      if c.toNat < 0x20 then none else readText fuel (c :: taken) rest
  | _, _ => none

/-- Read a fixed word. -/
def expect (word : List Char) (value : Json) (text : List Char) :
    Option (Json × List Char) :=
  if word.isPrefixOf text then some (value, text.drop word.length) else none

mutual

/-- A value and the text after it. -/
def readValue (fuel : Nat) (text : List Char) : Option (Json × List Char) :=
  match fuel with
  | 0 => none
  | fuel + 1 =>
      match skipSpace text with
      | '[' :: rest =>
          match skipSpace rest with
          | ']' :: rest => some (.arr [], rest)
          | rest => readItems fuel [] rest
      | '\x7b' :: rest =>
          match skipSpace rest with
          | '\x7d' :: rest => some (.obj [], rest)
          | rest => readMembers fuel [] rest
      | '"' :: rest =>
          (readText rest.length [] rest).map fun (text, rest) =>
            (.str text, rest)
      | 't' :: rest => expect ['r', 'u', 'e'] (.bool true) rest
      | 'f' :: rest => expect ['a', 'l', 's', 'e'] (.bool false) rest
      | 'n' :: rest => expect ['u', 'l', 'l'] .null rest
      | rest => readNumber rest

/-- The items of an array up to its bracket, after those in `taken`,
reversed. -/
def readItems (fuel : Nat) (taken : List Json) (text : List Char) :
    Option (Json × List Char) :=
  match fuel with
  | 0 => none
  | fuel + 1 => do
      let (item, rest) ← readValue fuel text
      match skipSpace rest with
      | ',' :: rest => readItems fuel (item :: taken) rest
      | ']' :: rest => return (.arr (item :: taken).reverse, rest)
      | _ => none

/-- The members of an object up to its brace, after those in `taken`. -/
def readMembers (fuel : Nat) (taken : List (String × Json)) (text : List Char) :
    Option (Json × List Char) :=
  match fuel with
  | 0 => none
  | fuel + 1 =>
      match skipSpace text with
      | '"' :: rest => do
          let (key, rest) ← readText rest.length [] rest
          match skipSpace rest with
          | ':' :: rest =>
              let (value, rest) ← readValue fuel rest
              let members := insertMember key value taken
              match skipSpace rest with
              | ',' :: rest => readMembers fuel members rest
              | '\x7d' :: rest => return (.obj members, rest)
              | _ => none
          | _ => none
      | _ => none

end

/-- Read a text that is one value. -/
def parse? (text : String) : Option Json := do
  let characters := text.toList
  let (value, rest) ← readValue (characters.length + 1) characters
  guard (skipSpace rest = [])
  return value

end Json
end SearchQuery
