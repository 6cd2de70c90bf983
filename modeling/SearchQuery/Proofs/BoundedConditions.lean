import SearchQuery.Proofs.Provenance
import SearchQuery.Proofs.RangeIntersections

/-!
# Conditions with two bounds

A condition with two bounds compiles to the same as the conjunction of a
condition with the lower bound and one with the upper bound, be it a range or a
failure. All three open the same range and read the same texts, and the halves
of a range meet in it where its bounds leave a place for a value.
-/

namespace SearchQuery

theorem ok_bind {α β : Type} (value : α) (continuation : α → Except Error β) :
    (Except.ok value >>= continuation) = continuation value :=
  rfl

namespace Range

/-- The range with other bounds. -/
def bounded (range : Range) (lower : Option LowerBound)
    (upper : Option UpperBound) : Range :=
  { range with lower := lower, upper := upper }

variable {range : Range} {lower : Option LowerBound} {upper : Option UpperBound}

theorem shared_halves :
    (range.bounded lower none).shared (range.bounded none upper) =
      range.bounded lower upper := by
  cases lower <;> cases upper <;>
    simp [bounded, shared, same, inner, LowerBound.order, UpperBound.order]

theorem overlaps_halves :
    (range.bounded lower none).overlaps (range.bounded none upper) =
      !(range.bounded lower upper).isEmpty := by
  rw [isEmpty, Bool.not_not]
  exact Bool.and_true _

/-- On a field with one value, the halves of a range meet in the range if it is
valid, and fail as it does otherwise. -/
theorem inter_halves
    (single : range.type.isArray = false)
    (number : range.boost.isNaN = false)
    (isLower : LowerBound.IsOf range.fieldType lower)
    (isUpper : UpperBound.IsOf range.fieldType upper) :
    (range.bounded lower none).node.inter (range.bounded none upper).node =
      (range.bounded lower upper).validate.map fun _ =>
        (range.bounded lower upper).node := by
  have sameScope : range.toScope.same range.toScope = true := by
    simp [Scope.same, Binary64.equals, number]
  have isOnLower : range.IsOn (range.bounded lower none) :=
    ⟨sameScope, rfl, rfl, ⟨isLower, UpperBound.isOf_none _⟩,
      by cases lower <;> rfl⟩
  have isOnUpper : range.IsOn (range.bounded none upper) :=
    ⟨sameScope, rfl, rfl, ⟨LowerBound.isOf_none _, isUpper⟩, rfl⟩
  rw [isOnLower.inter_eq isOnUpper single, shared_halves,
    overlaps_halves, validate]
  cases (range.bounded lower upper).isEmpty <;> rfl

end Range

namespace Compiler

variable {compiler : Compiler} {condition : Condition} {range : Range}

theorem isArray_types (compiler : Compiler) (field : String) :
    (compiler.types field).isArray = compiler.schema.isArray field := by
  unfold types Schema.isArray
  cases compiler.schema.find? field <;> rfl

/-- The range without bounds that a condition opens on its field. -/
def opened (compiler : Compiler) (condition : Condition) :
    Except Error Range := do
  let boost ← boost condition
  let scope ← compiler.scope condition boost
  compiler.openRange scope

/-- A range that a condition opens is on its field, has the type of the field, a
number as its weight, and no bounds. -/
theorem opened_eq_ok (success : compiler.opened condition = .ok range) :
    range.field = condition.field ∧ range.type = compiler.types range.field ∧
      range.boost.isNaN = false ∧ range = range.bounded none none := by
  obtain ⟨boost, weighs, success⟩ := exists_of_bind_eq_ok success
  obtain ⟨scope, isScope, success⟩ := exists_of_bind_eq_ok success
  obtain ⟨timeZone, rfl⟩ := openRange_eq_ok success
  have resolves := resolves_of_scope isScope
  rw [← resolves.boost] at weighs
  exact ⟨resolves.field, resolves.type, (boost_eq_ok weighs).2, rfl⟩

/-- A condition with a lower bound opens a range and bounds it. -/
theorem compileCondition_lower (inclusive : Bool) (text : String) :
    compiler.compileCondition
        { condition with comparison :=
          if inclusive then .gte else .gt, values := [text] } =
      (do
        let range ← compiler.opened condition
        let range ← compiler.lowerBound range
            (if inclusive then .gte else .gt) text
        return range.node) := by
  simp only [opened, bind_assoc]
  cases inclusive <;> rfl

/-- A condition with an upper bound opens a range and bounds it. -/
theorem compileCondition_upper (inclusive : Bool) (text : String) :
    compiler.compileCondition
        { condition with comparison :=
          if inclusive then .lte else .lt, values := [text] } =
      (do
        let range ← compiler.opened condition
        let range ← compiler.upperBound range
            (if inclusive then .lte else .lt) text
        return range.node) := by
  simp only [opened, bind_assoc]
  cases inclusive <;> rfl

/-- A condition with two bounds opens a range, bounds it from below and from
above, and validates it. -/
theorem compileCondition_between (leftInclusive rightInclusive : Bool)
    (low high : String) :
    compiler.compileCondition
        { condition with
          comparison := .between leftInclusive rightInclusive, values :=
            [low, high] } =
      (do
        let range ← compiler.opened condition
        let range ← compiler.lowerBound range (if leftInclusive then .gte
            else .gt) low
        let range ← compiler.upperBound range (if rightInclusive then .lte
            else .lt) high
        range.validate
        return range.node) := by
  simp only [opened, bind_assoc]
  rfl

/-- The conjunction of two expressions compiles to the intersection of their
trees. -/
theorem compile_all_pair (first second : Expr) :
    compiler.compile (.all [first, second]) =
      (do
        let node ← compiler.compile first
        let other ← compiler.compile second
        node.inter other) := by
  rw [compile, compileAll_eq_mapM, List.mapM_cons, List.mapM_cons,
    List.mapM_nil]
  cases compiler.compile first with
  | error error => rfl
  | ok node =>
      cases compiler.compile second with
      | error error => rfl
      | ok other => exact bind_pure (node.inter other)

/-- Setting a bound from above leaves the bound from below as it is. -/
theorem upperBound_withLower
    (range : Range)
    (lower : Option LowerBound)
    (comparison : UpperComparison)
    (text : String) :
    compiler.upperBound { range with lower := lower } comparison text =
      (compiler.upperBound range comparison text).map fun half =>
        { half with lower := lower } := by
  unfold upperBound
  split
  · rfl
  · cases compiler.schema.coerce range.field text <;> rfl

/-- On an open range, a lower bound and an upper bound that are set one after
the other come to the same as the intersection of two ranges with one of the
bounds each. The first text that cannot be read is the failure of both. -/
theorem bounds_eq_inter
    (unbounded : range = range.bounded none none)
    (typed : range.type = compiler.types range.field)
    (single : range.type.isArray = false)
    (number : range.boost.isNaN = false)
    (lowerComparison : LowerComparison)
    (upperComparison : UpperComparison)
    (low high : String) :
    (do
      let half ← compiler.lowerBound range lowerComparison low
      let whole ← compiler.upperBound half upperComparison high
      whole.validate
      return whole.node) =
    (do
      let half ← compiler.lowerBound range lowerComparison low
      let other ← compiler.upperBound range upperComparison high
      half.node.inter other.node) := by
  have noLower : LowerBound.IsOf range.fieldType range.lower := by
    rw [unbounded]
    exact LowerBound.isOf_none _
  have noUpper : UpperBound.IsOf range.fieldType range.upper := by
    rw [unbounded]
    exact UpperBound.isOf_none _
  cases boundsLower : compiler.lowerBound range lowerComparison low with
  | error error => rfl
  | ok half =>
      obtain ⟨lower, rfl, isLower⟩ := lowerBound_eq_ok typed noLower boundsLower
      rw [ok_bind, ok_bind, upperBound_withLower]
      cases boundsUpper : compiler.upperBound range upperComparison high with
      | error error => rfl
      | ok other =>
          obtain ⟨upper, rfl, isUpper⟩ :=
            upperBound_eq_ok typed noUpper boundsUpper
          have meets := (Range.inter_halves single number isLower isUpper).symm
          rw [unbounded] at meets ⊢
          exact meets

/-- On a field with one value, a condition with two bounds compiles to the same
as the conjunction of a condition with the lower bound and one with the upper
bound: to the same range or to the same failure, whatever the texts are. -/
theorem compile_between_eq_compile_all
    (compiler : Compiler)
    (condition : Condition)
    (leftInclusive rightInclusive : Bool)
    (low high : String)
    (single : compiler.schema.isArray condition.field = false) :
    compiler.compile (.condition
        { condition with
          comparison := .between leftInclusive rightInclusive, values :=
            [low, high] }) =
      compiler.compile (.all
        [.condition { condition with
            comparison :=
              if leftInclusive then .gte else .gt, values := [low] },
          .condition { condition with
            comparison := if rightInclusive then .lte else .lt, values :=
              [high] }]) := by
  rw [compile_all_pair, compile, compile, compile, compileCondition_between,
    compileCondition_lower, compileCondition_upper]
  cases opens : compiler.opened condition with
  | error error => rfl
  | ok range =>
      obtain ⟨field, typed, number, unbounded⟩ := opened_eq_ok opens
      rw [← field, ← isArray_types, ← typed] at single
      simp only [ok_bind, bind_assoc, pure_bind]
      exact bounds_eq_inter unbounded typed single number _ _ low high

/-- Ages from five to less than five are refused as a condition with two bounds,
and so as the conjunction of two conditions. -/
theorem compile_between_eq_compile_all_age :
    let compiler : Compiler :=
      ⟨.declare .empty "age" ⟨.integer, false, none⟩, .standard⟩
    compiler.schema.isArray "age" = false ∧
      compiler.compile
        (.condition ⟨"age", .between true false, ["5", "5"], .none⟩) =
        .error (.emptyIntersection "age") ∧
      compiler.compile (.all [.condition ⟨"age", .gte, ["5"], .none⟩,
        .condition ⟨"age", .lt, ["5"], .none⟩]) =
          .error (.emptyIntersection "age") := by
  have single :
      (Schema.declare .empty "age" ⟨.integer, false, none⟩).isArray
        "age" = false := by
    decide
  have refused :
      Compiler.compile ⟨.declare .empty "age" ⟨.integer, false, none⟩,
        .standard⟩
      (.condition ⟨"age", .between true false, ["5", "5"], .none⟩) =
        .error (.emptyIntersection "age") := by
    with_unfolding_all rfl
  have same := compile_between_eq_compile_all
    ⟨.declare .empty "age" ⟨.integer, false, none⟩, .standard⟩
      (.equalTo "age" "5") true false
    "5" "5" single
  exact ⟨single, refused, same.symm.trans refused⟩

end Compiler
end SearchQuery
