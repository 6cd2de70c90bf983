/-!
# Binary floating-point numbers

A `Binary64` is a bit pattern of the 64-bit binary interchange format.
Everything here is integer arithmetic on that pattern, so every statement about
it can be evaluated and proved.

Two notions of equality are needed. `equals` is the comparison of the format
itself, under which a NaN differs from everything. `same` belongs to the total
order `order`, where all NaNs are one greatest element. Both identify the two
zeros.
-/

namespace SearchQuery

/-- A number in the 64-bit binary interchange format, given by its bits. -/
structure Binary64 where
  bits : UInt64
  deriving DecidableEq, Inhabited

namespace Binary64

/-- The pattern with the given sign whose other 63 bits are `magnitude`. -/
def ofMagnitude (negative : Bool) (magnitude : Nat) : Binary64 :=
  ⟨UInt64.ofNat (if negative then Nat.pow 2 63 + magnitude else magnitude)⟩

/-- All bits but the sign. -/
def magnitude (x : Binary64) : Nat := x.bits.toNat % Nat.pow 2 63

/-- The sign bit is set. -/
def isNegative (x : Binary64) : Bool := Nat.pow 2 63 ≤ x.bits.toNat

/-- The magnitude of the infinities: a full exponent over an empty fraction. -/
def infiniteMagnitude : Nat := 2047 * Nat.pow 2 52

/-- A full exponent over a nonempty fraction is no number. -/
def isNaN (x : Binary64) : Bool := infiniteMagnitude < x.magnitude

/-- The number is one of the infinities. -/
def isInfinite (x : Binary64) : Bool := x.magnitude == infiniteMagnitude

/-- The number is neither infinite nor undefined. -/
def isFinite (x : Binary64) : Bool := x.magnitude < infiniteMagnitude

/-- The zero without a sign. -/
def zero : Binary64 := ofMagnitude false 0

/-- The number one. -/
def one : Binary64 := ofMagnitude false (1023 * Nat.pow 2 52)

/-- The infinity of a sign. -/
def infinity (negative : Bool) : Binary64 :=
  ofMagnitude negative infiniteMagnitude

/-- The quiet NaN with an empty payload. -/
def nan : Binary64 := ofMagnitude false (infiniteMagnitude + Nat.pow 2 51)

/-- The place of a number in the total order: the magnitude with its sign, and
one place above infinity for every NaN. -/
def place (x : Binary64) : Int :=
  if x.isNaN then Nat.pow 2 63
  else if x.isNegative then -(x.magnitude : Int)
  else (x.magnitude : Int)

/-- The total order by value, with both zeros equal and every NaN greatest. -/
def order (x y : Binary64) : Ordering := compare x.place y.place

/-- Equality in the total order. -/
def same (x y : Binary64) : Bool := x.place == y.place

/-- Equality of the format: a NaN equals nothing, and the zeros are equal. -/
def equals (x y : Binary64) : Bool := !x.isNaN && x.place == y.place

/-- A number below zero; a zero with a sign is not. -/
def isBelowZero (x : Binary64) : Bool := x.place < 0

theorem same_comm (x y : Binary64) : x.same y = y.same x := by
  simp only [same, Bool.beq_comm]

end Binary64

end SearchQuery
