/-!
# Integers in text

An integer is read from one optional sign and at least one ASCII digit, and only
inside the bounds of the caller. Leading zeros carry no meaning.
-/

namespace SearchQuery
namespace Text

/-- The value of a nonempty run of ASCII digits. -/
def digits? (text : List Char) : Option Nat :=
  if text ≠ [] ∧ text.all Char.isDigit then
    some (text.foldl
      (fun value digit => 10 * value + (digit.toNat - '0'.toNat)) 0)
  else none

/-- Read a number below `bound`, with an optional plus. -/
def natural? (bound : Nat) (text : List Char) : Option Nat := do
  let value ← digits? (match text with | '+' :: rest => rest | _ => text)
  guard (value < bound)
  return value

/-- Read an integer of 64 bits, with an optional sign. -/
def integer? (text : List Char) : Option Int64 := do
  let value : Int ←
    match text with
    | '-' :: rest => (digits? rest).map fun n => -(n : Int)
    | '+' :: rest => (digits? rest).map fun n => (n : Int)
    | _ => (digits? text).map fun n => (n : Int)
  guard (Int64.minValue.toInt ≤ value ∧ value ≤ Int64.maxValue.toInt)
  return Int64.ofInt value

/-- The pieces of a text between the occurrences of a separator. -/
def split (separator : Char) : List Char → List (List Char)
  | [] => [[]]
  | c :: rest =>
      if c = separator then [] :: split separator rest
      else
        match split separator rest with
        | [] => [[c]]
        | piece :: pieces => (c :: piece) :: pieces

/-- The texts before and after the first occurrence of a separator. -/
def splitFirst? (separator : Char) : List Char → Option (List Char × List Char)
  | [] => none
  | c :: rest =>
      if c = separator then some ([], rest)
      else (splitFirst? separator rest).map fun (before, after) =>
        (c :: before, after)

/-- A number in decimal digits, with zeros in front up to a width. -/
def padded (width : Nat) (n : Nat) : List Char :=
  let digits := Nat.toDigits 10 n
  List.replicate (width - digits.length) '0' ++ digits

end Text
end SearchQuery
