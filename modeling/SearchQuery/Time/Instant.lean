import SearchQuery.Text.Numeral
import SearchQuery.Time.Calendar

/-!
# Instants

An instant is a count of seconds from 1970-01-01T00:00:00 UTC and the
nanoseconds after it. A leap second is kept in the second before it, with a
thousand million nanoseconds or more, so the lexicographic order of the two
numbers is the order of time.
-/

namespace SearchQuery

/-- A point in time: seconds, rounded down, and nanoseconds after them. -/
structure Instant where
  seconds : Int
  nanos : Nat
  deriving DecidableEq

namespace Instant

/-- The nanoseconds at which a leap second begins. -/
def leap : Nat := 1000000000

/-- The instant of a date and a time of day in seconds. -/
def ofDate (date : CalendarDate) (secondOfDay : Int) (nanos : Nat) : Instant :=
  ⟨date.toDays * 86400 + secondOfDay, nanos⟩

/-- The first instant of the calendar. -/
def earliest : Instant := ofDate ⟨CalendarDate.firstYear, 1, 1⟩ 0 0

/-- The last instant of the calendar. -/
def latest : Instant := ofDate ⟨CalendarDate.lastYear, 12, 31⟩ 86399 999999999

/-- The order of time. -/
def order (a b : Instant) : Ordering :=
  (compare a.seconds b.seconds).then (compare a.nanos b.nanos)

/-- Milliseconds from 1970-01-01, rounded down. -/
def milliseconds (t : Instant) : Int :=
  t.seconds * 1000 + ((t.nanos / 1000000 : Nat) : Int)

/-- Inside the calendar, with nanoseconds of a plain or of a leap second. -/
def isValid (t : Instant) : Bool :=
  earliest.seconds ≤ t.seconds && t.seconds ≤ latest.seconds &&
    (t.nanos < leap || (t.nanos < 2 * leap && t.seconds % 60 == 59))

/-- The instant at a count of milliseconds, inside the calendar. -/
def ofMilliseconds? (milliseconds : Int) : Option Instant :=
  let t : Instant :=
    ⟨milliseconds.fdiv 1000, (milliseconds.fmod 1000).toNat * 1000000⟩
  if t.isValid then some t else none

/-- A year of four digits, or one with a sign. -/
def yearText (year : Int) : List Char :=
  if 0 ≤ year ∧ year ≤ 9999 then Text.padded 4 year.toNat
  else (if year < 0 then '-' else '+') :: Text.padded 4 year.natAbs

/-- The fraction of a second, in as many groups of three digits as it needs. -/
def fractionText (nanos : Nat) : List Char :=
  if nanos = 0 then []
  else if nanos % 1000000 = 0 then '.' :: Text.padded 3 (nanos / 1000000)
  else if nanos % 1000 = 0 then '.' :: Text.padded 6 (nanos / 1000)
  else '.' :: Text.padded 9 nanos

/-- Date and time of day in UTC. A leap second is written as second sixty. -/
def text (t : Instant) : String :=
  let date := CalendarDate.ofDays (t.seconds.fdiv 86400)
  let secondOfDay := (t.seconds.fmod 86400).toNat
  let second := secondOfDay % 60 + t.nanos / leap
  String.ofList <|
    yearText date.year ++ '-' :: Text.padded 2 date.month ++
      '-' :: Text.padded 2 date.day
      ++ 'T' :: Text.padded 2 (secondOfDay / 3600)
      ++ ':' :: Text.padded 2 (secondOfDay / 60 % 60)
      ++ ':' :: Text.padded 2 second ++ fractionText (t.nanos % leap)
      ++ ['+', '0', '0', ':', '0', '0']

end Instant
end SearchQuery
