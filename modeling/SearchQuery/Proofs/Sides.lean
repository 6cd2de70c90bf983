import SearchQuery.Algebra.Ranges
import SearchQuery.Proofs.ValueSets

/-!
# Sides of a range

A lower bound and an upper bound admit values in opposite directions, and in
nothing else do they differ. What holds of the bounds of one side is stated here
once, over the direction.
-/

namespace SearchQuery

/-- The direction in which the bounds of a side admit values. -/
inductive Direction
  | up
  | down

namespace Direction

/-- The order of values in a direction. -/
def order (direction : Direction) (type : FieldType) (a b : Value) : Ordering :=
  match direction with
  | .up => a.order type b
  | .down => b.order type a

/-- One place comes before another in a direction. -/
def Before {Place : Type} [LT Place] (direction : Direction) (a b : Place) :
    Prop :=
  match direction with
  | .up => a < b
  | .down => b < a

section Places

variable {Place : Type} [LinearOrder Place] {direction : Direction}
  {a b c : Place}

theorem Before.trans (first : direction.Before a b)
    (second : direction.Before b c) :
    direction.Before a c := by
  cases direction with
  | up => exact lt_trans first second
  | down => exact lt_trans second first

end Places

section Values

variable (direction : Direction) {type : FieldType} {a b : Value}

/-- One value comes before another in a direction where its place does. -/
theorem order_eq_lt_iff
    (ranking : Ranking type)
    (isA : a.isOf type = true)
    (isB : b.isOf type = true) :
    direction.order type a b = .lt ↔
      direction.Before (ranking.place a) (ranking.place b) := by
  cases direction with
  | up => exact ranking.order_eq_lt_iff isA isB
  | down => exact ranking.order_eq_lt_iff isB isA

theorem order_swap (isA : a.isOf type = true) (isB : b.isOf type = true) :
    direction.order type b a = (direction.order type a b).swap := by
  obtain ⟨ranking⟩ := exists_ranking type
  cases direction <;>
    rw [order, order, ranking.order_eq a b isA isB,
      ranking.order_eq b a isB isA, ← Std.OrientedOrd.eq_swap]

theorem order_eq_eq_iff (isA : a.isOf type = true) (isB : b.isOf type = true) :
    direction.order type a b = .eq ↔ a.equal type b = true := by
  cases direction with
  | up => rw [order, Value.equal, beq_iff_eq]
  | down => rw [order, Value.equal_comm isA isB, Value.equal, beq_iff_eq]

end Values
end Direction

/-- The bounds of one side: each stands on a value and admits it or not, and
besides it the values behind it in a direction. -/
class Sided (Bound : Type) where
  direction : Direction
  isInclusive : Bound → Bool
  value : Bound → Value
  eq_of_alike : ∀ {a b}, isInclusive a = isInclusive b →
    value a = value b → a = b

instance : Sided LowerBound where
  direction := .up
  isInclusive bound := bound.comparison.isInclusive
  value bound := bound.value
  eq_of_alike := by
    rintro ⟨_ | _, _⟩ ⟨_ | _, _⟩ alike rfl <;> first | rfl | cases alike

instance : Sided UpperBound where
  direction := .down
  isInclusive bound := bound.comparison.isInclusive
  value bound := bound.value
  eq_of_alike := by
    rintro ⟨_ | _, _⟩ ⟨_ | _, _⟩ alike rfl <;> first | rfl | cases alike

namespace Sided

variable {Bound : Type} [Sided Bound] {type : FieldType} {v w : Value}

/-- The value lies behind the bound, or on it if it is inclusive. -/
def admits (type : FieldType) (bound : Bound) (v : Value) : Bool :=
  match (direction Bound).order type (value bound) v with
  | .lt => true
  | .eq => isInclusive bound
  | .gt => false

/-- A bound that is there is of the kind of a field type. -/
def IsOf (type : FieldType) (bound : Option Bound) : Prop :=
  ∀ content, bound = some content → (value content).isOf type = true

/-- The order by how much is admitted; no bound admits most. -/
def order (type : FieldType) : Option Bound → Option Bound → Ordering
  | none, none => .eq
  | none, some _ => .lt
  | some _, none => .gt
  | some a, some b =>
      ((direction Bound).order type (value a) (value b)).then
        (compare (isInclusive b).toNat (isInclusive a).toNat)

/-- A bound excludes the value that it stands on. -/
def Excludes (type : FieldType) (bound : Option Bound) (v : Value) : Prop :=
  ∃ content, bound = some content ∧ isInclusive content = false ∧
    (value content).equal type v = true

/-- There is no bound on either of two places, or both are inclusive or not, on
the same value. -/
def Alike : Option Bound → Option Bound → Prop :=
  Option.Rel fun a b => isInclusive a = isInclusive b ∧
    (value a).same (value b) = true

/-- An inclusive bound in the place of one that excludes its own value. -/
structure IsClosure (closed bound : Bound) : Prop where
  value_eq : value closed = value bound
  isInclusive_closed : isInclusive closed = true
  isInclusive_bound : isInclusive bound = false

theorem isOf_none (type : FieldType) : IsOf type (none : Option Bound) := by
  rintro _ ⟨⟩

section Admission

variable {bound : Bound} (isBound : (value bound).isOf type = true)
  (isValue : v.isOf type = true)
include isBound isValue

/-- A bound admits the values behind its own, and its own if it is inclusive. -/
theorem admits_iff (ranking : Ranking type) :
    admits type bound v = true ↔
      (direction Bound).Before (ranking.place (value bound)) (ranking.place v) ∨
        isInclusive bound = true ∧ ranking.place (value bound) =
          ranking.place v := by
  have before := (direction Bound).order_eq_lt_iff ranking isBound isValue
  have meets := (direction Bound).order_eq_eq_iff isBound isValue
  rw [ranking.equal_iff isBound isValue] at meets
  rw [admits, ← before, ← meets]
  cases (direction Bound).order type (value bound) v <;> simp

/-- An inclusive bound admits what is not before its value, another one what is
behind it. -/
theorem admits_iff_order :
    admits type bound v = true ↔
      if isInclusive bound then ¬(direction Bound).order type v (value bound) =
        .lt
      else (direction Bound).order type (value bound) v = .lt := by
  rw [(direction Bound).order_swap isBound isValue, Ordering.swap_eq_lt, admits]
  cases (direction Bound).order type (value bound) v <;>
    cases isInclusive bound <;> simp

theorem admits_eq_false_of_meets
    (excluded : isInclusive bound = false)
    (meets : (value bound).equal type v = true) :
    admits type bound v = false := by
  rw [admits, ((direction Bound).order_eq_eq_iff isBound isValue).mpr meets]
  exact excluded

theorem admits_closure {closed : Bound} (closure : IsClosure closed bound) :
    admits type closed v =
      (admits type bound v || (value bound).equal type v) := by
  have meets := (direction Bound).order_eq_eq_iff isBound isValue
  rw [Bool.eq_iff_iff, Bool.or_eq_true, ← meets, admits, admits,
    closure.value_eq, closure.isInclusive_closed, closure.isInclusive_bound]
  cases (direction Bound).order type (value bound) v <;> simp

/-- A bound does not tell equal values apart. -/
theorem admits_congr_right
    (isOther : w.isOf type = true)
    (same : v.equal type w = true) :
    admits type bound v = admits type bound w := by
  obtain ⟨ranking⟩ := exists_ranking type
  rw [Bool.eq_iff_iff, admits_iff isBound isValue ranking,
    admits_iff isBound isOther ranking,
    (ranking.equal_iff isValue isOther).mp same]

/-- Bounds on equal values that are both inclusive, or both not, admit the
same. -/
theorem admits_congr_left
    {other : Bound}
    (isOther : (value other).isOf type = true)
    (alike : isInclusive bound = isInclusive other)
    (same : (value bound).equal type (value other) = true) :
    admits type bound v = admits type other v := by
  obtain ⟨ranking⟩ := exists_ranking type
  rw [Bool.eq_iff_iff, admits_iff isBound isValue ranking,
    admits_iff isOther isValue ranking,
    (ranking.equal_iff isBound isOther).mp same, alike]

end Admission

section Pairs

variable {a b : Option Bound} (isA : IsOf type a) (isB : IsOf type b)
include isA isB

/-- The order of bounds does not depend on the side. -/
theorem order_swap : order type b a = (order type a b).swap := by
  cases a with
  | none => cases b <;> rfl
  | some a =>
      cases b with
      | none => rfl
      | some b =>
          rw [order, order,
            (direction Bound).order_swap (isA a rfl) (isB b rfl),
            Ordering.swap_then, ← Std.OrientedOrd.eq_swap]

variable (isValue : v.isOf type = true)
include isValue

/-- Of two bounds, the one that admits no less admits whatever the other
does. -/
theorem all_admits_of_order_ne_gt
    (notAfter : order type a b ≠ .gt)
    (admitted : b.all (admits type · v) = true) :
    a.all (admits type · v) = true := by
  obtain ⟨ranking⟩ := exists_ranking type
  cases a with
  | none => rfl
  | some a =>
      cases b with
      | none => exact absurd rfl notAfter
      | some b =>
          have before :=
            (direction Bound).order_eq_lt_iff ranking (isA a rfl) (isB b rfl)
          have meets :=
            (direction Bound).order_eq_eq_iff (isA a rfl) (isB b rfl)
          rw [ranking.equal_iff (isA a rfl) (isB b rfl)] at meets
          rw [order] at notAfter
          rw [Option.all_some, admits_iff (isB b rfl) isValue ranking]
            at admitted
          rw [Option.all_some, admits_iff (isA a rfl) isValue ranking]
          cases outcome : (direction Bound).order type (value a) (value b) with
          | lt =>
              have before := before.mp outcome
              refine .inl (admitted.elim before.trans fun ⟨_, same⟩ => ?_)
              exact same ▸ before
          | eq =>
              have inclusive : ∀ {first second : Bool},
                  compare first.toNat second.toNat ≠ .gt → first = true →
                    second = true := by
                decide
              rw [outcome, Ordering.eq_then] at notAfter
              rw [meets.mp outcome]
              exact admitted.imp_right fun ⟨own, same⟩ =>
                ⟨inclusive notAfter own, same⟩
          | gt =>
              rw [outcome] at notAfter
              exact absurd rfl notAfter

theorem all_admits_of_alike (alike : Alike a b) :
    a.all (admits type · v) = b.all (admits type · v) := by
  cases alike with
  | none => rfl
  | some both =>
      have equal := Value.equal_of_same (isA _ rfl) (isB _ rfl) both.2
      exact admits_congr_left (isA _ rfl) isValue (isB _ rfl) both.1 equal

/-- The bound that admits more admits what either of two admits. -/
theorem all_admits_wider :
    (if order type a b = .gt then b else a).all (admits type · v) =
      (a.all (admits type · v) || b.all (admits type · v)) := by
  rw [Bool.eq_iff_iff, Bool.or_eq_true]
  split
  · rename_i after
    have notAfter : order type b a ≠ .gt := by simp [order_swap isA isB, after]
    exact ⟨.inr, fun admitted => admitted.elim
      (all_admits_of_order_ne_gt isB isA isValue notAfter) id⟩
  · rename_i notAfter
    exact ⟨.inl, fun admitted => admitted.elim id
      (all_admits_of_order_ne_gt isA isB isValue notAfter)⟩

/-- The bound that admits less admits what both of two admit. -/
theorem all_admits_narrower :
    (if order type a b = .lt then b else a).all (admits type · v) =
      (a.all (admits type · v) && b.all (admits type · v)) := by
  rw [Bool.eq_iff_iff, Bool.and_eq_true]
  split
  · rename_i before
    have notAfter : order type a b ≠ .gt := by simp [before]
    exact ⟨fun admitted =>
        ⟨all_admits_of_order_ne_gt isA isB isValue notAfter admitted, admitted⟩,
      And.right⟩
  · rename_i notBefore
    have notAfter : order type b a ≠ .gt := by
      rwa [order_swap isA isB, ne_eq, Ordering.swap_eq_gt]
    exact ⟨fun admitted =>
        ⟨admitted, all_admits_of_order_ne_gt isB isA isValue notAfter admitted⟩,
      And.left⟩

end Pairs

section Exclusion

variable {bound : Option Bound} (isBound : IsOf type bound)
  (isValue : v.isOf type = true)
include isBound isValue

/-- Bounds that are there do not tell equal values apart. -/
theorem all_admits_congr (isOther : w.isOf type = true)
    (same : v.equal type w = true) :
    bound.all (admits type · v) = bound.all (admits type · w) := by
  cases bound with
  | none => rfl
  | some bound =>
      exact admits_congr_right (isBound bound rfl) isValue isOther same

theorem all_admits_of_excludes (excluded : Excludes type bound v) :
    bound.all (admits type · v) = false := by
  obtain ⟨content, rfl, isOpen, meets⟩ := excluded
  exact admits_eq_false_of_meets (isBound content rfl) isValue isOpen meets

end Exclusion

/-- Bounds of opposite sides that stand on one value, which one of them admits,
share all values between them. -/
theorem admits_opposite
    {Other : Type}
    [Sided Other]
    {bound : Bound}
    {other : Other}
    (opposite : ∀ a b, (direction Other).order type a b =
      (direction Bound).order type b a)
    (sameValue : value other = value bound)
    (differ : isInclusive other = !isInclusive bound)
    (isBound : (value bound).isOf type = true)
    (isValue : v.isOf type = true) :
    admits type other v = !admits type bound v := by
  rw [admits, admits, opposite, sameValue, differ,
    (direction Bound).order_swap isBound isValue]
  cases (direction Bound).order type (value bound) v <;> simp

end Sided
end SearchQuery
