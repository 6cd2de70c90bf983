import Mathlib.Data.Prod.Lex
import Mathlib.Order.WithBot
import SearchQuery.Proofs.Ranges

/-!
# Bounds are cuts

A bound cuts the line of values before or after a place, and the absence of a
bound is a cut at the end of the line. The orders of bounds are those of their
cuts, and a lower bound reaches an upper one where its cut is below. So a range
that leaves a place for a value is an interval of cuts that is not empty, and
ranges overlap where their intervals do.
-/

namespace SearchQuery

/-- The cuts of a line: before or after a place, or at one of its ends. -/
abbrev Ranking.Cut {type : FieldType} (ranking : Ranking type) :=
  WithBot (WithTop (ranking.Place ×ₗ Bool))

variable {type : FieldType} (ranking : Ranking type)

/-- The cut before a place, or after it. -/
def Ranking.cutAt (place : ranking.Place) (after : Bool) : ranking.Cut :=
  WithBot.some (WithTop.some (toLex (place, after)))

/-- The cut at which admitted values begin. -/
def LowerBound.cut : Option LowerBound → ranking.Cut
  | none => ⊥
  | some bound =>
      ranking.cutAt (ranking.place bound.value) !bound.comparison.isInclusive

/-- The cut at which admitted values end. -/
def UpperBound.cut : Option UpperBound → ranking.Cut
  | none => ⊤
  | some bound =>
      ranking.cutAt (ranking.place bound.value) bound.comparison.isInclusive

theorem Ranking.cutAt_lt_iff {placeA placeB : ranking.Place}
    {afterA afterB : Bool} :
    ranking.cutAt placeA afterA < ranking.cutAt placeB afterB ↔
      placeA < placeB ∨ placeA = placeB ∧ afterA < afterB := by
  rw [cutAt, cutAt, WithBot.coe_lt_coe, WithTop.coe_lt_coe,
    Prod.Lex.toLex_lt_toLex]

/-- Cuts at places are compared by the places and then by the side of the
place. -/
theorem Ranking.compare_cutAt (placeA placeB : ranking.Place)
    (afterA afterB : Bool) :
    compare (ranking.cutAt placeA afterA) (ranking.cutAt placeB afterB) =
      (compare placeA placeB).then (compare afterA.toNat afterB.toNat) := by
  rcases lt_trichotomy placeA placeB with below | rfl | above
  · rw [compare_lt_iff_lt.mpr below,
      compare_lt_iff_lt.mpr (ranking.cutAt_lt_iff.mpr (.inl below))]
    rfl
  · rw [compare_eq_iff_eq.mpr rfl, Ordering.eq_then]
    cases afterA <;> cases afterB
    · exact compare_eq_iff_eq.mpr rfl
    · exact compare_lt_iff_lt.mpr
        (ranking.cutAt_lt_iff.mpr (.inr ⟨rfl, by decide⟩))
    · exact compare_gt_iff_gt.mpr
        (ranking.cutAt_lt_iff.mpr (.inr ⟨rfl, by decide⟩))
    · exact compare_eq_iff_eq.mpr rfl
  · rw [compare_gt_iff_gt.mpr above,
      compare_gt_iff_gt.mpr (ranking.cutAt_lt_iff.mpr (.inl above))]
    rfl

theorem Ranking.cutAt_lt_top (place : ranking.Place) (after : Bool) :
    ranking.cutAt place after < ⊤ :=
  WithBot.coe_lt_coe.mpr (WithTop.coe_lt_top _)

theorem Ranking.bot_lt_cutAt (place : ranking.Place) (after : Bool) :
    ⊥ < ranking.cutAt place after :=
  WithBot.bot_lt_coe _

/-- Lower bounds are ordered as their cuts. -/
theorem LowerBound.order_eq_compare
    {a b : Option LowerBound}
    (isA : IsOf type a)
    (isB : IsOf type b) :
    order type a b = compare (cut ranking a) (cut ranking b) := by
  cases a with
  | none =>
      cases b with
      | none => exact (compare_eq_iff_eq.mpr rfl).symm
      | some b => exact (compare_lt_iff_lt.mpr (ranking.bot_lt_cutAt _ _)).symm
  | some a =>
      cases b with
      | none => exact (compare_gt_iff_gt.mpr (ranking.bot_lt_cutAt _ _)).symm
      | some b =>
          rw [cut, cut, ranking.compare_cutAt, order,
            ranking.order_eq _ _ (isA a rfl) (isB b rfl)]
          cases a.comparison <;> cases b.comparison <;> rfl

/-- Upper bounds are ordered as their cuts. -/
theorem UpperBound.order_eq_compare
    {a b : Option UpperBound}
    (isA : IsOf type a)
    (isB : IsOf type b) :
    order type a b = compare (cut ranking a) (cut ranking b) := by
  cases a with
  | none =>
      cases b with
      | none => exact (compare_eq_iff_eq.mpr rfl).symm
      | some b => exact (compare_gt_iff_gt.mpr (ranking.cutAt_lt_top _ _)).symm
  | some a =>
      cases b with
      | none => exact (compare_lt_iff_lt.mpr (ranking.cutAt_lt_top _ _)).symm
      | some b =>
          rw [cut, cut, ranking.compare_cutAt, order,
            ranking.order_eq _ _ (isA a rfl) (isB b rfl)]

/-- Lower bounds that are alike cut at one place. -/
theorem LowerBound.cut_eq_of_alike
    {a b : Option LowerBound}
    (isA : IsOf type a)
    (isB : IsOf type b)
    (alike : Sided.Alike a b) :
    cut ranking a = cut ranking b := by
  cases alike with
  | none => rfl
  | some both =>
      have equal := Value.equal_of_same (isA _ rfl) (isB _ rfl) both.2
      have place := (ranking.equal_iff (isA _ rfl) (isB _ rfl)).mp equal
      exact congrArg₂ ranking.cutAt place (congrArg Bool.not both.1)

/-- Upper bounds that are alike cut at one place. -/
theorem UpperBound.cut_eq_of_alike
    {a b : Option UpperBound}
    (isA : IsOf type a)
    (isB : IsOf type b)
    (alike : Sided.Alike a b) :
    cut ranking a = cut ranking b := by
  cases alike with
  | none => rfl
  | some both =>
      have equal := Value.equal_of_same (isA _ rfl) (isB _ rfl) both.2
      have place := (ranking.equal_iff (isA _ rfl) (isB _ rfl)).mp equal
      exact congrArg₂ ranking.cutAt place both.1

/-- A lower bound reaches an upper one where its cut is below. -/
theorem reaches_iff_cut_lt
    {lower : Option LowerBound}
    {upper : Option UpperBound}
    (isLower : LowerBound.IsOf type lower)
    (isUpper : UpperBound.IsOf type upper) :
    reaches type lower upper = true ↔
      LowerBound.cut ranking lower < UpperBound.cut ranking upper := by
  cases lower with
  | none =>
      cases upper with
      | none => exact iff_of_true rfl (WithBot.bot_lt_coe ⊤)
      | some upper => exact iff_of_true rfl (ranking.bot_lt_cutAt _ _)
  | some lower =>
      cases upper with
      | none => exact iff_of_true rfl (ranking.cutAt_lt_top _ _)
      | some upper =>
          have bothInclusive : ∀ first second : Bool,
              (!first) < second ↔ first = true ∧ second = true := by decide
          rw [reaches_some_iff ranking _ _ (isLower lower rfl)
            (isUpper upper rfl),
            LowerBound.cut, UpperBound.cut, ranking.cutAt_lt_iff, bothInclusive]
          exact or_congr_right ⟨fun ⟨low, high, same⟩ => ⟨same, low, high⟩,
            fun ⟨same, low, high⟩ => ⟨low, high, same⟩⟩

namespace Range

/-- The cut at which a range begins. -/
def beginning (range : Range) (ranking : Ranking type) : ranking.Cut :=
  LowerBound.cut ranking range.lower

/-- The cut at which a range ends. -/
def ending (range : Range) (ranking : Ranking type) : ranking.Cut :=
  UpperBound.cut ranking range.upper

section Intervals

variable {a b range : Range} (isRange : range.IsOf) (isA : a.IsOf)
  (isB : b.IsOf)
  (rangeType : range.fieldType = type) (typeA : a.fieldType = type)
  (typeB : b.fieldType = type)

include isRange rangeType in
theorem isEmpty_eq_false_iff :
    range.isEmpty = false ↔ range.beginning ranking < range.ending ranking := by
  subst rangeType
  rw [isEmpty, Bool.not_eq_false']
  exact reaches_iff_cut_lt ranking isRange.lower isRange.upper

include isA isB typeA typeB

/-- Ranges overlap where each begins before the other ends. -/
theorem overlaps_iff :
    a.overlaps b = true ↔
      a.beginning ranking < b.ending ranking ∧ b.beginning ranking <
        a.ending ranking := by
  subst typeA
  rw [overlaps, Bool.and_eq_true,
    reaches_iff_cut_lt ranking isA.lower (typeB ▸ isB.upper),
    reaches_iff_cut_lt ranking (typeB ▸ isB.lower) isA.upper]
  rfl

/-- A range contains another where it begins no later and ends no earlier. -/
theorem contains_iff :
    a.contains b = true ↔
      a.beginning ranking ≤ b.beginning ranking ∧ b.ending ranking ≤
        a.ending ranking := by
  subst typeA
  rw [contains, Bool.and_eq_true, bne_iff_ne, bne_iff_ne,
    LowerBound.order_eq_compare ranking isA.lower (typeB ▸ isB.lower),
    UpperBound.order_eq_compare ranking isA.upper (typeB ▸ isB.upper),
    ne_eq, ne_eq, compare_gt_iff_gt, compare_lt_iff_lt, not_lt, not_lt]
  rfl

/-- The outer envelope of ranges begins where the first of them begins. -/
theorem beginning_outer :
    (a.outer b).beginning ranking =
      min (a.beginning ranking) (b.beginning ranking) := by
  subst typeA
  have lower : (a.outer b).beginning ranking = LowerBound.cut ranking
      (if LowerBound.order a.fieldType a.lower b.lower = .gt then b.lower
        else a.lower) := rfl
  rw [lower, LowerBound.order_eq_compare ranking isA.lower (typeB ▸ isB.lower)]
  split
  · rename_i after
    exact (min_eq_right (compare_gt_iff_gt.mp after).le).symm
  · rename_i notAfter
    exact (min_eq_left (not_lt.mp (mt compare_gt_iff_gt.mpr notAfter))).symm

/-- The outer envelope of ranges ends where the last of them ends. -/
theorem ending_outer :
    (a.outer b).ending ranking = max (a.ending ranking) (b.ending ranking) := by
  subst typeA
  have upper : (a.outer b).ending ranking = UpperBound.cut ranking
      (if UpperBound.order a.fieldType a.upper b.upper = .lt then b.upper
        else a.upper) := rfl
  rw [upper, UpperBound.order_eq_compare ranking isA.upper (typeB ▸ isB.upper)]
  split
  · rename_i before
    exact (max_eq_right (compare_lt_iff_lt.mp before).le).symm
  · rename_i notBefore
    exact (max_eq_left (not_lt.mp (mt compare_lt_iff_lt.mpr notBefore))).symm

/-- The inner envelope of ranges begins where the last of them begins. -/
theorem beginning_inner :
    (a.inner b).beginning ranking =
      max (a.beginning ranking) (b.beginning ranking) := by
  subst typeA
  have lower : (a.inner b).beginning ranking = LowerBound.cut ranking
      (if LowerBound.order a.fieldType a.lower b.lower = .lt then b.lower
        else a.lower) := rfl
  rw [lower, LowerBound.order_eq_compare ranking isA.lower (typeB ▸ isB.lower)]
  split
  · rename_i before
    exact (max_eq_right (compare_lt_iff_lt.mp before).le).symm
  · rename_i notBefore
    exact (max_eq_left (not_lt.mp (mt compare_lt_iff_lt.mpr notBefore))).symm

/-- The inner envelope of ranges ends where the first of them ends. -/
theorem ending_inner :
    (a.inner b).ending ranking = min (a.ending ranking) (b.ending ranking) := by
  subst typeA
  have upper : (a.inner b).ending ranking = UpperBound.cut ranking
      (if UpperBound.order a.fieldType a.upper b.upper = .gt then b.upper
        else a.upper) := rfl
  rw [upper, UpperBound.order_eq_compare ranking isA.upper (typeB ▸ isB.upper)]
  split
  · rename_i after
    exact (min_eq_right (compare_gt_iff_gt.mp after).le).symm
  · rename_i notAfter
    exact (min_eq_left (not_lt.mp (mt compare_gt_iff_gt.mpr notAfter))).symm

end Intervals
end Range
end SearchQuery
