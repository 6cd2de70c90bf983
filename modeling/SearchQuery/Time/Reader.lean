import SearchQuery.Text.Blank
import SearchQuery.Time.Instant

/-!
# Reading instants

Four forms are tried in turn. The first is the timestamp of RFC 3339, with
digits of fixed widths and an offset. The second and third are a date and time
of day, and a date alone, both in UTC and with digits of free width. The last is
a count of milliseconds.
-/

namespace SearchQuery
namespace Instant

/-- Between `least` and `most` digits in front of a text, with the rest. -/
def takeDigits? (least most : Nat) (text : List Char) :
    Option (Nat × List Char) := do
  let digits := (text.take most).takeWhile Char.isDigit
  guard (least ≤ digits.length)
  let value ← Text.digits? digits
  return (value, text.drop digits.length)

/-- The rest of a text after a character that must stand in front. -/
def expect? (c : Char) : List Char → Option (List Char)
  | first :: rest => if first = c then some rest else none
  | [] => none

/-- The instant of a date and a time of day. Second sixty is a leap second, kept
in second fifty-nine. -/
def ofFields? (date : CalendarDate) (hour minute second nanos : Nat) :
    Option Instant := do
  guard (date.isValid ∧ hour < 24 ∧ minute < 60 ∧ second ≤ 60)
  let kept := min second 59
  let nanos := if second = 60 then leap + nanos else nanos
  return ofDate date (hour * 3600 + minute * 60 + kept) nanos

/-- A fraction of a second: nine digits count, and the ones after them are
skipped. -/
def fraction? : List Char → Option (Nat × List Char)
  | '.' :: rest =>
      let digits := (rest.takeWhile Char.isDigit).take 9
      (Text.digits? digits).map fun value =>
        (value * Nat.pow 10 (9 - digits.length), rest.dropWhile Char.isDigit)
  | text => some (0, text)

/-- An offset from UTC in minutes: `Z`, or a sign, hours and minutes. The minus
may also be the mathematical one. -/
def offset? : List Char → Option Int
  | ['Z'] | ['z'] => some 0
  | sign :: text => do
      guard (sign = '+' ∨ sign = '-' ∨ sign = '\u2212')
      let (hours, text) ← takeDigits? 2 2 text
      let text ← expect? ':' text
      let (minutes, text) ← takeDigits? 2 2 text
      guard (text = [] ∧ hours < 24 ∧ minutes < 60)
      let total : Int := hours * 60 + minutes
      return if sign = '+' then total else -total
  | [] => none

/-- A timestamp of RFC 3339. -/
def timestamp? (text : List Char) : Option Instant := do
  let (year, text) ← takeDigits? 4 4 text
  let (month, text) ← takeDigits? 2 2 (← expect? '-' text)
  let (day, text) ← takeDigits? 2 2 (← expect? '-' text)
  let text ←
    match text with
    | 'T' :: rest | 't' :: rest | ' ' :: rest => some rest
    | _ => none
  let (hour, text) ← takeDigits? 2 2 text
  let (minute, text) ← takeDigits? 2 2 (← expect? ':' text)
  let (second, text) ← takeDigits? 2 2 (← expect? ':' text)
  let (nanos, text) ← fraction? text
  let minutes ← offset? text
  let moment ← ofFields? ⟨year, month, day⟩ hour minute second nanos
  return ⟨moment.seconds - minutes * 60, moment.nanos⟩

/-- A number of at most two digits, after blanks. -/
def takeField? (text : List Char) : Option (Nat × List Char) :=
  takeDigits? 1 2 (Text.trimLeft text)

/-- A year, after blanks: at most four digits, or a sign and any number of
them. -/
def takeYear? (text : List Char) : Option (Int × List Char) :=
  match Text.trimLeft text with
  | '-' :: rest =>
      (takeDigits? 1 rest.length rest).map fun (n, rest) => (-(n : Int), rest)
  | '+' :: rest =>
      (takeDigits? 1 rest.length rest).map fun (n, rest) => ((n : Int), rest)
  | rest => (takeDigits? 1 4 rest).map fun (n, rest) => ((n : Int), rest)

/-- A date with digits of free width, and the rest. -/
def takeDate? (text : List Char) : Option (CalendarDate × List Char) := do
  let (year, text) ← takeYear? text
  let (month, text) ← takeField? (← expect? '-' text)
  let (day, text) ← takeField? (← expect? '-' text)
  return (⟨year, month, day⟩, text)

/-- A date and a time of day in UTC. -/
def dateTime? (text : List Char) : Option Instant := do
  let (date, text) ← takeDate? text
  let (hour, text) ← takeField? (← expect? 'T' text)
  let (minute, text) ← takeField? (← expect? ':' text)
  let (second, text) ← takeField? (← expect? ':' text)
  guard (text = [])
  ofFields? date hour minute second 0

/-- A date, standing for its first instant in UTC. -/
def date? (text : List Char) : Option Instant := do
  let (date, text) ← takeDate? text
  guard (text = [])
  ofFields? date 0 0 0 0

/-- Read an instant in the first of the four forms that the text has. -/
def ofText? (text : String) : Option Instant :=
  let characters := text.toList
  timestamp? characters <|> dateTime? characters <|> date? characters <|>
    (Text.integer? characters).bind fun n => ofMilliseconds? n.toInt

end Instant
end SearchQuery
