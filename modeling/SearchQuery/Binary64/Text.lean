import SearchQuery.Binary64.Shortest

/-!
# Decimal text of numbers

`plain` writes a number for a reader: positional, without an exponent, and
without a point when there is no fraction. `numeral` writes a finite number for
a JSON document: a fraction is always shown, and large and small numbers have an
exponent. `ofText?` reads every decimal numeral and the names of the values that
have no digits.
-/

namespace SearchQuery

namespace Decimal

/-- The digits of the significand. -/
def digits (value : Decimal) : List Char := Nat.toDigits 10 value.significand

/-- Where the point stands, counted from before the first digit. -/
def pointPosition (value : Decimal) : Int :=
  value.digits.length + value.exponent

/-- Positional notation without an exponent. -/
def positional (value : Decimal) : List Char :=
  let digits := value.digits
  let point := value.pointPosition
  if 0 ≤ value.exponent then digits ++ List.replicate value.exponent.toNat '0'
  else if 0 < point then
    digits.take point.toNat ++ '.' :: digits.drop point.toNat
  else '0' :: '.' :: (List.replicate (-point).toNat '0' ++ digits)

/-- One digit before the point, and a power of ten. -/
def scientific (value : Decimal) : List Char :=
  let power := value.pointPosition - 1
  let mantissa :=
    match value.digits with
    | [] => []
    | [digit] => [digit]
    | digit :: rest => digit :: '.' :: rest
  mantissa ++ ['e', if power < 0 then '-' else '+'] ++
    Nat.toDigits 10 power.natAbs

end Decimal

namespace Binary64

/-- The sign, before a text without one. -/
def signed (x : Binary64) (text : List Char) : String :=
  String.ofList (if x.isNegative then '-' :: text else text)

/-- The text of a number in messages. -/
def plain (x : Binary64) : String :=
  if x.isNaN then "NaN"
  else if x.isInfinite then x.signed ['i', 'n', 'f']
  else x.signed (shortest x.magnitude).positional

/-- The numeral of a finite number in a JSON document: positional from `1e-5` to
below `1e16`. -/
def numeral (x : Binary64) : String :=
  let value := shortest x.magnitude
  let point := value.pointPosition
  x.signed <|
    if -4 ≤ point ∧ point ≤ 16 then
      if 0 ≤ value.exponent then value.positional ++ ['.', '0']
      else value.positional
    else value.scientific

/-- The value of a run of decimal digits. -/
def digitsValue (digits : List Char) : Nat :=
  digits.foldl (fun value digit => 10 * value + (digit.toNat - '0'.toNat)) 0

/-- The sign in front of a text, with the rest: `true` for a minus. -/
def splitSign : List Char → Bool × List Char
  | '-' :: rest => (true, rest)
  | '+' :: rest => (false, rest)
  | rest => (false, rest)

/-- The exponent part after a mantissa: nothing, or `e` and a signed integer. -/
def exponentOfText? : List Char → Option Int
  | [] => some 0
  | mark :: rest =>
      let (negative, digits) := splitSign rest
      if (mark = 'e' ∨ mark = 'E') ∧ digits ≠ [] ∧ digits.all Char.isDigit then
        some
          (if negative then -(digitsValue digits : Int)
            else digitsValue digits)
      else none

/-- A decimal numeral without a sign. A digit must stand on one side of the
point. -/
def numeralOfText? (negative : Bool) (text : List Char) : Option Binary64 := do
  let whole := text.takeWhile Char.isDigit
  let afterWhole := text.dropWhile Char.isDigit
  let (fraction, rest) :=
    match afterWhole with
    | '.' :: more => (more.takeWhile Char.isDigit, more.dropWhile Char.isDigit)
    | more => ([], more)
  guard (whole ≠ [] ∨ fraction ≠ [])
  let exponent ← exponentOfText? rest
  return ofDecimal negative (digitsValue (whole ++ fraction))
    (exponent - fraction.length)

/-- Read a number: an optional sign, then a decimal numeral or, in letters of
any case, `inf`, `infinity` or `nan`. -/
def ofText? (text : String) : Option Binary64 :=
  let (negative, rest) := splitSign text.toList
  let name := String.ofList (rest.map Char.toLower)
  if name = "inf" ∨ name = "infinity" then some (infinity negative)
  else if name = "nan" then
    some (ofMagnitude negative nan.magnitude)
  else numeralOfText? negative rest

end Binary64
end SearchQuery
