import Mathlib.Algebra.Group.Nat.Defs
import Mathlib.Order.MinMax
import SearchQuery.Binary64.Rounding

/-!
# Rounding keeps the order of integers

Integers of one length are counted in one unit and rounded in their order. A
shorter integer stays below every longer one, since a carry out of its
significand comes no further than the least significand of the next length. So
integers are never rounded past each other, although different integers may be
rounded to one number.
-/

namespace SearchQuery
namespace Binary64

section Quotients

variable {numerator other denominator : Nat}

/-- A quotient is rounded to one of the integers around it. -/
theorem divideToEven_mem (numerator denominator : Nat) :
    numerator / denominator ≤ divideToEven numerator denominator ∧
      divideToEven numerator denominator ≤ numerator / denominator + 1 := by
  unfold divideToEven
  dsimp only
  split
  · omega
  · split <;> omega

/-- Quotients by one denominator are rounded in their order. Where one integer
is below both, their remainders are in order. -/
theorem divideToEven_le (le : numerator ≤ other) :
    divideToEven numerator denominator ≤ divideToEven other denominator := by
  rcases (Nat.div_le_div_right (c := denominator) le).lt_or_eq with below | same
  · have first := (divideToEven_mem numerator denominator).2
    have second := (divideToEven_mem other denominator).1
    omega
  · have parts := Nat.div_add_mod numerator denominator
    have otherParts := Nat.div_add_mod other denominator
    rw [same] at parts
    unfold divideToEven
    dsimp only
    rw [same]
    split <;> split <;> (try split) <;> (try split) <;> omega

theorem divideToEven_mul (quotient : Nat) (positive : 0 < denominator) :
    divideToEven (quotient * denominator) denominator = quotient := by
  unfold divideToEven
  simp [Nat.mul_div_cancel _ positive, positive]

end Quotients

/-- The unit in the last place of a positive integer follows from the length of
the integer. -/
theorem unitExponent_one {n : Nat} (nonzero : n ≠ 0) :
    unitExponent n 1 = (n.log2 : Int) - 52 := by
  have least : 2 ^ n.log2 ≤ n := Nat.log2_self_le nonzero
  have noDigit : Nat.log2 1 = 0 := by decide
  have reaches : (if 0 ≤ (n.log2 : Int) - 52
      then decide (2 ^ (52 + ((n.log2 : Int) - 52).toNat) ≤ n)
      else decide (2 ^ 52 ≤ n * 2 ^ (-((n.log2 : Int) - 52)).toNat)) =
        true := by
    split
    · have length : 52 + ((n.log2 : Int) - 52).toNat = n.log2 := by omega
      rw [length]
      exact decide_eq_true least
    · have length : n.log2 + (-((n.log2 : Int) - 52)).toNat = 52 := by omega
      rw [← length, Nat.pow_add]
      exact decide_eq_true (Nat.mul_le_mul_right _ least)
  unfold unitExponent leastExponent
  simp only [noDigit, Int.ofNat_zero, Int.sub_zero, Nat.pow_eq, Nat.one_mul,
    reaches, if_true]
  omega

/-- The significand of a positive integer: how many units in the last place it
is rounded to. -/
def integerSignificand (n : Nat) : Nat :=
  divideToEven (n * 2 ^ (52 - n.log2)) (2 ^ (n.log2 - 52))

/-- The magnitude of a positive integer is its significand above its length. -/
theorem nearestMagnitude_one {n : Nat} (nonzero : n ≠ 0) :
    nearestMagnitude n 1 =
      min infiniteMagnitude
        ((n.log2 + 1022) * 2 ^ 52 + integerSignificand n) := by
  have place : ((n.log2 : Int) - 52 - leastExponent).toNat = n.log2 + 1022 := by
    unfold leastExponent
    omega
  unfold nearestMagnitude
  simp only [unitExponent_one nonzero, place, Nat.pow_eq, Nat.one_mul]
  unfold integerSignificand
  split
  · rename_i long
    rw [show ((n.log2 : Int) - 52).toNat = n.log2 - 52 by omega,
      show 52 - n.log2 = 0 by omega, Nat.pow_zero, Nat.mul_one]
  · rename_i short
    rw [show (-((n.log2 : Int) - 52)).toNat = 52 - n.log2 by omega,
      show n.log2 - 52 = 0 by omega, Nat.pow_zero]

/-- A significand has 53 binary digits, or is carried to the least number of
more. -/
theorem integerSignificand_mem {n : Nat} (nonzero : n ≠ 0) :
    2 ^ 52 ≤ integerSignificand n ∧ integerSignificand n ≤ 2 ^ 53 := by
  have positive : 0 < 2 ^ (n.log2 - 52) := Nat.two_pow_pos _
  have least : 2 ^ 52 * 2 ^ (n.log2 - 52) ≤ n * 2 ^ (52 - n.log2) := by
    calc 2 ^ 52 * 2 ^ (n.log2 - 52) = 2 ^ n.log2 * 2 ^ (52 - n.log2) := by
          rw [← Nat.pow_add, ← Nat.pow_add]
          congr 1
          omega
      _ ≤ n * 2 ^ (52 - n.log2) :=
        Nat.mul_le_mul_right _ (Nat.log2_self_le nonzero)
  have greatest : n * 2 ^ (52 - n.log2) ≤ 2 ^ 53 * 2 ^ (n.log2 - 52) := by
    calc n * 2 ^ (52 - n.log2) ≤ 2 ^ (n.log2 + 1) * 2 ^ (52 - n.log2) :=
          Nat.mul_le_mul_right _ Nat.lt_log2_self.le
      _ = 2 ^ 53 * 2 ^ (n.log2 - 52) := by
          rw [← Nat.pow_add, ← Nat.pow_add]
          congr 1
          omega
  constructor
  · rw [← divideToEven_mul (2 ^ 52) positive]
    exact divideToEven_le least
  · rw [← divideToEven_mul (2 ^ 53) positive]
    exact divideToEven_le greatest

/-- Positive integers are rounded in their order. -/
theorem nearestMagnitude_one_le {n m : Nat} (nonzero : n ≠ 0) (le : n ≤ m) :
    nearestMagnitude n 1 ≤ nearestMagnitude m 1 := by
  have otherNonzero : m ≠ 0 := by omega
  have reachesLength : n.log2 ≤ m.log2 :=
    (Nat.le_log2 otherNonzero).mpr (le_trans (Nat.log2_self_le nonzero) le)
  rw [nearestMagnitude_one nonzero, nearestMagnitude_one otherNonzero]
  apply min_le_min_left
  rcases reachesLength.eq_or_lt with sameLength | longer
  · have significands : integerSignificand n ≤ integerSignificand m := by
      unfold integerSignificand
      rw [sameLength]
      exact divideToEven_le (Nat.mul_le_mul_right _ le)
    omega
  · have most := (integerSignificand_mem nonzero).2
    have least := (integerSignificand_mem otherNonzero).1
    omega

/-- A pattern has the magnitude and the sign that it was made of. -/
theorem magnitude_and_isNegative_ofMagnitude
    (negative : Bool)
    {magnitude : Nat}
    (least : magnitude ≤ infiniteMagnitude) :
    (ofMagnitude negative magnitude).magnitude = magnitude ∧
      (ofMagnitude negative magnitude).isNegative = negative := by
  unfold infiniteMagnitude at least
  simp only [Nat.pow_eq] at least
  unfold ofMagnitude Binary64.magnitude isNegative
  simp only [Nat.pow_eq, UInt64.toNat_ofNat']
  cases negative
  · simp
    omega
  · simp
    omega

/-- The place of a pattern follows from its sign and its magnitude. -/
theorem place_ofMagnitude
    (negative : Bool)
    {magnitude : Nat}
    (least : magnitude ≤ infiniteMagnitude) :
    (ofMagnitude negative magnitude).place =
      if negative then -(magnitude : Int) else magnitude := by
  obtain ⟨sameMagnitude, sameSign⟩ :=
    magnitude_and_isNegative_ofMagnitude negative least
  have isNumber : (ofMagnitude negative magnitude).isNaN = false := by
    rw [isNaN, sameMagnitude]
    exact decide_eq_false least.not_gt
  rw [place, isNumber, sameMagnitude, sameSign, if_neg Bool.false_ne_true]

/-- The magnitude that a natural number is rounded to. -/
def integerMagnitude (n : Nat) :
    Nat := if n = 0 then 0 else nearestMagnitude n 1

/-- Natural numbers are rounded in their order. -/
theorem integerMagnitude_le {n m : Nat} (le : n ≤ m) :
    integerMagnitude n ≤ integerMagnitude m := by
  unfold integerMagnitude
  split
  · exact Nat.zero_le _
  · rename_i nonzero
    rw [if_neg (by omega)]
    exact nearestMagnitude_one_le nonzero le

/-- The place of an integer is its sign with the magnitude that it is rounded
to. -/
theorem place_ofInt (n : Int) :
    (ofInt n).place =
      if n < 0 then -(integerMagnitude n.natAbs : Int)
      else integerMagnitude n.natAbs := by
  have least : integerMagnitude n.natAbs ≤ infiniteMagnitude := by
    unfold integerMagnitude
    split
    · exact Nat.zero_le _
    · exact min_le_left _ _
  have rounded :
      ofInt n = ofMagnitude (n < 0) (integerMagnitude n.natAbs) := rfl
  rw [rounded, place_ofMagnitude _ least]
  simp only [decide_eq_true_eq]

/-- Integers are rounded to places in their order. -/
theorem place_ofInt_le {n m : Int} (le : n ≤ m) :
    (ofInt n).place ≤ (ofInt m).place := by
  rw [place_ofInt, place_ofInt]
  split <;> split
  · have magnitudes : integerMagnitude m.natAbs ≤ integerMagnitude n.natAbs :=
      integerMagnitude_le (by omega)
    omega
  · omega
  · omega
  · have magnitudes : integerMagnitude n.natAbs ≤ integerMagnitude m.natAbs :=
      integerMagnitude_le (by omega)
    omega

end Binary64
end SearchQuery
