import SearchQuery.Binary64.Shortest
import SearchQuery.Json.Basic

/-!
# Numbers in JSON text

An integer literal that fits 64 bits, signed or unsigned, is an integer. Every
other literal is a binary number, which is found in two steps: the significand,
cut to 64 bits, is rounded, and its product with a power of ten is rounded
again. Up to fifteen digits and powers to the twenty-second, this is the nearest
number. A literal beyond the largest finite number is refused.
-/

namespace SearchQuery

namespace Binary64

/-- The exact value of a finite magnitude as a quotient. -/
def quotient (magnitude : Nat) : Nat × Nat :=
  let e := exponent magnitude
  if 0 ≤ e then (significand magnitude * Nat.pow 2 e.toNat, 1)
  else (significand magnitude, Nat.pow 2 (-e).toNat)

/-- The magnitude nearest to the quotient, zero included. -/
def roundQuotient (numerator denominator : Nat) : Nat :=
  if numerator = 0 then 0 else nearestMagnitude numerator denominator

/-- The rounded product of finite magnitudes. -/
def product (a b : Nat) : Nat :=
  roundQuotient ((quotient a).1 * (quotient b).1)
    ((quotient a).2 * (quotient b).2)

/-- The rounded quotient of finite magnitudes, the second one not zero. -/
def divide (a b : Nat) : Nat :=
  roundQuotient ((quotient a).1 * (quotient b).2)
    ((quotient a).2 * (quotient b).1)

end Binary64

namespace Json

/-- The greatest power of ten that is a finite number. -/
def greatestPower : Nat := 308

/-- The magnitude nearest to a power of ten. -/
def powerOfTen (power : Nat) : Nat :=
  Binary64.nearestMagnitude (Nat.pow 10 power) 1

/-- The digits of a significand that fit 64 bits, and how many are left over. -/
def cutDigits (value : Nat) : List Char → Nat × Nat
  | [] => (value, 0)
  | digit :: rest =>
      let next := 10 * value + (digit.toNat - '0'.toNat)
      if Nat.pow 2 64 ≤ next then (value, rest.length + 1)
      else cutDigits next rest

/-- A magnitude times a power of ten. A power too small for one step is reached
in several. -/
def scale? (magnitude : Nat) (power : Int) : Option Nat :=
  if 0 ≤ power then
    if magnitude = 0 then some 0
    else if greatestPower < power.toNat then none
    else
      let result := Binary64.product magnitude (powerOfTen power.toNat)
      if result < Binary64.infiniteMagnitude then some result else none
  else
    let down := (-power).toNat
    let once := Binary64.divide magnitude (powerOfTen greatestPower)
    if down ≤ greatestPower then
      some (Binary64.divide magnitude (powerOfTen down))
    else if down ≤ 2 * greatestPower then
      some (Binary64.divide once (powerOfTen (down - greatestPower)))
    else if down ≤ 3 * greatestPower then
      some (Binary64.divide (Binary64.divide once (powerOfTen greatestPower))
        (powerOfTen (down - 2 * greatestPower)))
    else some 0

/-- The value of a run of decimal digits. -/
def digitsValue (digits : List Char) : Nat :=
  digits.foldl (fun value digit => 10 * value + (digit.toNat - '0'.toNat)) 0

/-- The binary number of a literal. -/
def binary? (negative : Bool) (whole fraction : List Char) (exponent : Int) :
    Option Json := do
  let (value, dropped) := cutDigits 0 whole
  let (value, ignored) := cutDigits value fraction
  let power : Int := exponent + dropped - (fraction.length - ignored : Nat)
  let magnitude ← scale? (Binary64.roundQuotient value 1) power
  return .float (.ofMagnitude negative magnitude)

/-- The sign of an exponent, with the digits after it. -/
def exponentSign : List Char → Bool × List Char
  | '-' :: rest => (true, rest)
  | '+' :: rest => (false, rest)
  | rest => (false, rest)

/-- Read a number. -/
def readNumber (text : List Char) : Option (Json × List Char) := do
  let (negative, unsigned) :=
    match text with
    | '-' :: rest => (true, rest)
    | _ => (false, text)
  let whole := unsigned.takeWhile Char.isDigit
  let rest := unsigned.dropWhile Char.isDigit
  guard (whole ≠ [] ∧ (whole.length = 1 ∨ whole.head? ≠ some '0'))
  let (fraction, rest) ←
    match rest with
    | '.' :: more =>
        let digits := more.takeWhile Char.isDigit
        if digits = [] then none
        else some (some digits, more.dropWhile Char.isDigit)
    | _ => some (none, rest)
  let (exponent, rest) ←
    match rest with
    | mark :: more =>
        if mark = 'e' ∨ mark = 'E' then
          let (down, digitsOn) := exponentSign more
          let digits := digitsOn.takeWhile Char.isDigit
          let value : Int := digitsValue digits
          if digits = [] then none
          else some (some (if down then -value else value),
            digitsOn.dropWhile Char.isDigit)
        else some (none, rest)
    | [] => some (none, rest)
  let value := digitsValue whole
  let fits :=
    if negative then 0 < value ∧ value ≤ Nat.pow 2 63
    else value < Nat.pow 2 64
  if fraction.isNone ∧ exponent.isNone ∧ fits then
    return (.int (if negative then -(value : Int) else value), rest)
  else
    return (← binary? negative whole (fraction.getD []) (exponent.getD 0), rest)

end Json
end SearchQuery
