import SearchQuery.Binary64.Basic

/-!
# Rounding to the nearest binary number

An exact quotient of natural numbers is rounded to the nearest representable
magnitude, a tie going to the even one. Integers and decimal numerals are such
quotients.
-/

namespace SearchQuery
namespace Binary64

/-- The quotient rounded to the nearest integer, a tie going to the even one. -/
def divideToEven (numerator denominator : Nat) : Nat :=
  let quotient := numerator / denominator
  let doubled := 2 * (numerator % denominator)
  if doubled < denominator then quotient
  else if denominator < doubled then quotient + 1
  else quotient + quotient % 2

/-- The least exponent of the unit in the last place. -/
def leastExponent : Int := -1074

/-- The exponent of the unit in the last place of `numerator / denominator`: the
quotient counted in this unit has 53 binary digits, or fewer at the least
exponent. -/
def unitExponent (numerator denominator : Nat) : Int :=
  let guess : Int := (numerator.log2 : Int) - (denominator.log2 : Int) - 52
  let reaches : Bool :=
    if 0 ≤ guess then denominator * Nat.pow 2 (52 + guess.toNat) ≤ numerator
    else denominator * Nat.pow 2 52 ≤ numerator * Nat.pow 2 (-guess).toNat
  max leastExponent (if reaches then guess else guess - 1)

/-- The magnitude nearest to a positive quotient. The significand is added to
the exponent field, so that a carry out of the significand raises the
exponent. -/
def nearestMagnitude (numerator denominator : Nat) : Nat :=
  let exponent := unitExponent numerator denominator
  let significand :=
    if 0 ≤ exponent then
      divideToEven numerator (denominator * Nat.pow 2 exponent.toNat)
    else divideToEven (numerator * Nat.pow 2 (-exponent).toNat) denominator
  min infiniteMagnitude
    ((exponent - leastExponent).toNat * Nat.pow 2 52 + significand)

/-- The binary number nearest to a signed quotient with positive denominator. -/
def ofRatio (negative : Bool) (numerator denominator : Nat) : Binary64 :=
  ofMagnitude negative
    (if numerator = 0 then 0 else nearestMagnitude numerator denominator)

/-- The binary number nearest to an integer. -/
def ofInt (n : Int) : Binary64 := ofRatio (n < 0) n.natAbs 1

/-- How many decimal digits a number has. -/
def decimalLength (n : Nat) : Nat := (Nat.toDigits 10 n).length

/-- The binary number nearest to `significand * 10 ^ exponent`. Beyond the
powers of ten that the format covers the answer is known without computing the
power. -/
def ofDecimal (negative : Bool) (significand : Nat) (exponent : Int) :
    Binary64 :=
  let reach : Int := exponent + decimalLength significand
  if significand = 0 then ofMagnitude negative 0
  else if 310 < reach then infinity negative
  else if reach < -330 then ofMagnitude negative 0
  else if 0 ≤ exponent then
    ofRatio negative (significand * Nat.pow 10 exponent.toNat) 1
  else ofRatio negative significand (Nat.pow 10 (-exponent).toNat)

end Binary64
end SearchQuery
