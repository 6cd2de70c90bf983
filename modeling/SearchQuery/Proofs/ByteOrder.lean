import Mathlib.Data.String.Basic
import Mathlib.Data.UInt
import Mathlib.Tactic.SplitIfs
import SearchQuery.Version

/-!
# The order of texts by their bytes

Texts are ordered by code point. The encoding of code points in bytes keeps
their order, so texts are ordered as their bytes are.
-/

namespace SearchQuery
namespace Version

/-- Bytes are ordered like the numbers below 256 that they are. -/
theorem compare_byte {n m : Nat} (smallN : n < 256) (smallM : m < 256) :
    compare (UInt8.ofNat n) (UInt8.ofNat m) = compare n m := by
  have less : UInt8.ofNat n < UInt8.ofNat m ↔ n < m := by
    rw [UInt8.lt_iff_toNat_lt, UInt8.toNat_ofNat_of_lt' smallN,
      UInt8.toNat_ofNat_of_lt' smallM]
  have equal : UInt8.ofNat n = UInt8.ofNat m ↔ n = m := by
    rw [← UInt8.toNat_inj, UInt8.toNat_ofNat_of_lt' smallN,
      UInt8.toNat_ofNat_of_lt' smallM]
  simp only [compare, compareOfLessAndEq, less, equal]

/-- What begins with the bytes of a lesser character is less, since the bytes of
a character are its digits by 64. -/
theorem compare_append_of_lt {c d : Char} (less : c < d) (s t : List UInt8) :
    compare (String.utf8EncodeChar c ++ s) (String.utf8EncodeChar d ++ t) =
      .lt := by
  have least : c.val.toNat < d.val.toNat := less
  have greatest : d.val.toNat < 1114112 := by
    rcases d.valid with below | ⟨-, below⟩
    · exact below.trans (by decide)
    · exact below
  simp only [String.utf8EncodeChar]
  generalize c.val.toNat = n at *
  generalize d.val.toNat = m at *
  have quotientN : n / 262144 / 8 = 0 ∧ n / 262144 = n / 4096 / 64 ∧
      n / 4096 = n / 64 / 64 := by
    omega
  have quotientM : m / 262144 / 8 = 0 ∧ m / 262144 = m / 4096 / 64 ∧
      m / 4096 = m / 64 / 64 := by
    omega
  split_ifs
  all_goals
    simp only [List.cons_append, List.compare_cons_cons, Ordering.then_eq_lt]
    simp (disch := omega) only [compare_byte, Nat.compare_eq_lt,
      Nat.compare_eq_eq]
    omega

theorem compare_append_left (bytes s t : List UInt8) :
    compare (bytes ++ s) (bytes ++ t) = compare s t := by
  induction bytes with
  | nil => rfl
  | cons byte bytes hypothesis =>
      rw [List.cons_append, List.cons_append, List.compare_cons_cons,
        Std.ReflOrd.compare_self, Ordering.eq_then, hypothesis]

/-- The bytes of a lesser text are less. -/
theorem compare_flatMap_of_lt {a b : List Char} (less : a < b) :
    compare (a.flatMap String.utf8EncodeChar)
      (b.flatMap String.utf8EncodeChar) = .lt := by
  induction less with
  | nil =>
      rename_i c _
      rw [List.flatMap_cons]
      cases bytes : String.utf8EncodeChar c with
      | nil => exact absurd bytes String.utf8EncodeChar_ne_nil
      | cons byte bytes => rfl
  | rel less =>
      rw [List.flatMap_cons, List.flatMap_cons]
      exact compare_append_of_lt less _ _
  | cons _ hypothesis =>
      rw [List.flatMap_cons, List.flatMap_cons, compare_append_left, hypothesis]

theorem textOrder_of_lt {a b : List Char} (less : a < b) :
    textOrder (String.ofList a) (String.ofList b) = .lt :=
  if_pos
    (String.lt_iff_toList_lt.mpr
      (by rwa [String.toList_ofList, String.toList_ofList]))

/-- Texts are ordered by their bytes. -/
theorem textOrder_eq_compare_bytes (a b : List Char) :
    textOrder (String.ofList a) (String.ofList b) =
      compare (a.flatMap String.utf8EncodeChar)
        (b.flatMap String.utf8EncodeChar) := by
  rcases lt_trichotomy a b with less | rfl | greater
  · rw [textOrder_of_lt less, compare_flatMap_of_lt less]
  · rw [textOrder, Std.ReflOrd.compare_self, Std.ReflOrd.compare_self]
  · have swapped := textOrder_of_lt greater
    rw [textOrder, Std.OrientedOrd.eq_swap, Ordering.swap_eq_lt] at swapped
    rw [textOrder, swapped, Std.OrientedOrd.eq_swap,
      compare_flatMap_of_lt greater]
    rfl

end Version
end SearchQuery
