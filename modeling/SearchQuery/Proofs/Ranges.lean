import SearchQuery.Proofs.Sides

/-!
# Ranges are intervals

Bounds of one side are nested in each other, and a lower bound that stays below
an upper one leaves no value to neither. From these two facts follow the
envelopes of overlapping ranges, the widening by a value on a bound, and the
halves that make up the complement.
-/

namespace SearchQuery

section Bounds

variable {type : FieldType} {value : Value}

/-- A bound that is there is of the kind of a field type. -/
def LowerBound.IsOf (type : FieldType) (bound : Option LowerBound) : Prop :=
  ∀ content, bound = some content → content.value.isOf type = true

/-- A bound that is there is of the kind of a field type. -/
def UpperBound.IsOf (type : FieldType) (bound : Option UpperBound) : Prop :=
  ∀ content, bound = some content → content.value.isOf type = true

theorem LowerBound.isOf_none (type : FieldType) : IsOf type none :=
  Sided.isOf_none type

theorem UpperBound.isOf_none (type : FieldType) : IsOf type none :=
  Sided.isOf_none type

/-- A lower bound admits the values after its own, and its own if it is
inclusive. -/
theorem LowerBound.admits_iff
    (ranking : Ranking type)
    (bound : LowerBound)
    (isBound : bound.value.isOf type = true)
    (isValue : value.isOf type = true) :
    bound.admits type value = true ↔
      ranking.place bound.value < ranking.place value ∨
        bound.comparison.isInclusive = true ∧
          ranking.place bound.value = ranking.place value :=
  @Sided.admits_iff _ _ _ _ bound isBound isValue ranking

/-- An upper bound admits the values before its own, and its own if it is
inclusive. -/
theorem UpperBound.admits_iff
    (ranking : Ranking type)
    (bound : UpperBound)
    (isBound : bound.value.isOf type = true)
    (isValue : value.isOf type = true) :
    bound.admits type value = true ↔
      ranking.place value < ranking.place bound.value ∨
        bound.comparison.isInclusive = true ∧
          ranking.place bound.value = ranking.place value :=
  @Sided.admits_iff _ _ _ _ bound isBound isValue ranking

/-- A lower bound stays below an upper one, or meets it where both are
inclusive. -/
theorem reaches_some_iff
    (ranking : Ranking type)
    (lower : LowerBound)
    (upper : UpperBound)
    (isLower : lower.value.isOf type = true)
    (isUpper : upper.value.isOf type = true) :
    reaches type (some lower) (some upper) = true ↔
      ranking.place lower.value < ranking.place upper.value ∨
        (lower.comparison.isInclusive = true ∧
          upper.comparison.isInclusive = true ∧
          ranking.place lower.value = ranking.place upper.value) := by
  rw [reaches, ranking.order_eq _ _ isLower isUpper]
  rcases lt_trichotomy (ranking.place lower.value)
    (ranking.place upper.value) with
    below | same | above
  · simp [compare_lt_iff_lt.mpr below, below]
  · simp [same]
  · simp [compare_gt_iff_gt.mpr above, above.not_gt, above.ne']

theorem UpperBound.order_eq_swap
    {a b : Option UpperBound}
    (isA : IsOf type a)
    (isB : IsOf type b) :
    order type a b = (Sided.order type a b).swap := by
  rw [← Sided.order_swap isA isB]
  cases a <;> cases b <;> rfl

theorem LowerBound.order_eq (a b : Option LowerBound) :
    order type a b = Sided.order type a b := by
  cases a <;> cases b <;> rfl

theorem LowerBound.order_swap
    {a b : Option LowerBound}
    (isA : IsOf type a)
    (isB : IsOf type b) :
    order type b a = (order type a b).swap := by
  rw [order_eq, order_eq, Sided.order_swap isA isB]

theorem UpperBound.order_swap
    {a b : Option UpperBound}
    (isA : IsOf type a)
    (isB : IsOf type b) :
    order type b a = (order type a b).swap := by
  rw [order_eq_swap isA isB, order_eq_swap isB isA, Sided.order_swap isA isB]

/-- Where a lower bound reaches an upper one, every value is admitted by one of
them. -/
theorem admits_or_admits_of_reaches
    {lower : Option LowerBound}
    {upper : Option UpperBound}
    (isLower : LowerBound.IsOf type lower)
    (isUpper : UpperBound.IsOf type upper)
    (isValue : value.isOf type = true)
    (reached : reaches type lower upper = true) :
    lower.all (·.admits type value) = true ∨
      upper.all (·.admits type value) = true := by
  obtain ⟨ranking⟩ := exists_ranking type
  cases lower with
  | none => exact .inl rfl
  | some lower =>
      cases upper with
      | none => exact .inr rfl
      | some upper =>
          have placeLower := isLower lower rfl
          have placeUpper := isUpper upper rfl
          rw [reaches_some_iff ranking _ _ placeLower placeUpper] at reached
          rw [Option.all_some, Option.all_some,
            LowerBound.admits_iff ranking _ placeLower isValue,
            UpperBound.admits_iff ranking _ placeUpper isValue]
          rcases reached with below | ⟨inclusive, _, same⟩
          · rcases lt_or_ge (ranking.place lower.value)
              (ranking.place value) with before | after
            · exact .inl (.inl before)
            · exact .inr (.inl (lt_of_le_of_lt after below))
          · rcases le_or_gt (ranking.place lower.value)
              (ranking.place value) with before | after
            · exact .inl (before.lt_or_eq.imp_right fun meets =>
                ⟨inclusive, meets⟩)
            · exact .inr (.inl (same ▸ after))

/-- A lower bound and an upper bound that both admit a value reach each
other. -/
theorem reaches_of_admits
    {lower : Option LowerBound}
    {upper : Option UpperBound}
    (isLower : LowerBound.IsOf type lower)
    (isUpper : UpperBound.IsOf type upper)
    (isValue : value.isOf type = true)
    (fromLower : lower.all (·.admits type value) = true)
    (toUpper : upper.all (·.admits type value) = true) :
    reaches type lower upper = true := by
  obtain ⟨ranking⟩ := exists_ranking type
  cases lower with
  | none => rfl
  | some lower =>
      cases upper with
      | none => rfl
      | some upper =>
          have placeLower := isLower lower rfl
          have placeUpper := isUpper upper rfl
          rw [Option.all_some,
            LowerBound.admits_iff ranking _ placeLower isValue] at fromLower
          rw [Option.all_some,
            UpperBound.admits_iff ranking _ placeUpper isValue] at toUpper
          rw [reaches_some_iff ranking _ _ placeLower placeUpper]
          rcases fromLower with before | ⟨inclusiveLower, meetsLower⟩
          · rcases toUpper with after | ⟨_, meetsUpper⟩
            · exact .inl (lt_trans before after)
            · exact .inl (meetsUpper ▸ before)
          · rcases toUpper with after | ⟨inclusiveUpper, meetsUpper⟩
            · exact .inl (meetsLower ▸ after)
            · exact .inr ⟨inclusiveLower, inclusiveUpper,
                meetsLower.trans meetsUpper.symm⟩

/-- The complement of a lower bound admits what the bound does not. -/
theorem LowerBound.admits_complement
    (bound : LowerBound)
    (isBound : bound.value.isOf type = true)
    (isValue : value.isOf type = true) :
    bound.complement.admits type value = !bound.admits type value := by
  have differ : bound.comparison.complement.isInclusive =
      !bound.comparison.isInclusive := by
    cases bound.comparison <;> rfl
  exact @Sided.admits_opposite LowerBound _ _ _ UpperBound _ bound _
    (fun _ _ => rfl) rfl differ isBound isValue

/-- The complement of an upper bound admits what the bound does not. -/
theorem UpperBound.admits_complement
    (bound : UpperBound)
    (isBound : bound.value.isOf type = true)
    (isValue : value.isOf type = true) :
    bound.complement.admits type value = !bound.admits type value := by
  have differ : bound.comparison.complement.isInclusive =
      !bound.comparison.isInclusive := by
    cases bound.comparison <;> rfl
  exact @Sided.admits_opposite UpperBound _ _ _ LowerBound _ bound _
    (fun _ _ => rfl) rfl differ isBound isValue

end Bounds

namespace Range

/-- The bounds of a range are of the kind of its type. -/
structure IsOf (range : Range) : Prop where
  lower : LowerBound.IsOf range.fieldType range.lower
  upper : UpperBound.IsOf range.fieldType range.upper

variable {a b range : Range} {value : Value}

theorem includes_eq (range : Range) (value : Value) :
    range.includes value =
      (range.lower.all (Sided.admits range.fieldType · value) &&
        range.upper.all (Sided.admits range.fieldType · value)) :=
  rfl

/-- The bounds of ranges that are the same are alike. -/
theorem alike_of_same (alike : a.same b = true) :
    Sided.Alike a.lower b.lower ∧ Sided.Alike a.upper b.upper := by
  simp only [same, Bool.and_eq_true] at alike
  obtain ⟨⟨⟨⟨_, lower⟩, upper⟩, _⟩, _⟩ := alike
  constructor
  · split at lower
    · simp [Sided.Alike, *]
    · rename_i isLowerA isLowerB
      rw [LowerBound.same, Bool.and_eq_true, beq_iff_eq] at lower
      rw [isLowerA, isLowerB]
      exact .some ⟨congrArg LowerComparison.isInclusive lower.1, lower.2⟩
    · cases lower
  · split at upper
    · simp [Sided.Alike, *]
    · rename_i isUpperA isUpperB
      rw [UpperBound.same, Bool.and_eq_true, beq_iff_eq] at upper
      rw [isUpperA, isUpperB]
      exact .some ⟨congrArg UpperComparison.isInclusive upper.1, upper.2⟩
    · cases upper

/-- A range that includes a value is not empty. -/
theorem not_isEmpty_of_includes
    (isRange : range.IsOf)
    (isValue : value.isOf range.fieldType = true)
    (included : range.includes value = true) :
    range.isEmpty = false := by
  rw [includes, Bool.and_eq_true] at included
  rw [isEmpty,
    reaches_of_admits isRange.lower isRange.upper isValue included.1 included.2]
  rfl

/-- A range includes a value if it includes an equal one. -/
theorem includes_congr
    {other : Value}
    (isRange : range.IsOf)
    (isValue : value.isOf range.fieldType = true)
    (isOther : other.isOf range.fieldType = true)
    (same : value.equal range.fieldType other = true) :
    range.includes value = range.includes other := by
  rw [includes_eq, includes_eq,
    Sided.all_admits_congr isRange.lower isValue isOther same,
    Sided.all_admits_congr isRange.upper isValue isOther same]

section Pairs

theorem overlaps_comm (sameType : b.fieldType = a.fieldType) :
    a.overlaps b = b.overlaps a := by
  rw [overlaps, overlaps, sameType, Bool.and_comm]

theorem lower_outer :
    (a.outer b).lower =
      if Sided.order a.fieldType a.lower b.lower = .gt then b.lower
      else a.lower := by
  rw [← LowerBound.order_eq]
  rfl

theorem lower_inner :
    (a.inner b).lower =
      if Sided.order a.fieldType a.lower b.lower = .lt then b.lower
      else a.lower := by
  rw [← LowerBound.order_eq]
  rfl

variable (isA : a.IsOf) (isB : b.IsOf) (sameType : b.fieldType = a.fieldType)
include isA isB sameType

/-- The upper bound of the outer envelope is the one that admits more. -/
theorem upper_outer :
    (a.outer b).upper =
      if Sided.order a.fieldType a.upper b.upper = .gt then b.upper
      else a.upper := by
  have ends : UpperBound.order a.fieldType a.upper b.upper = .lt ↔
      Sided.order a.fieldType a.upper b.upper = .gt := by
    rw [UpperBound.order_eq_swap isA.upper (sameType ▸ isB.upper),
      Ordering.swap_eq_lt]
  exact if_congr ends rfl rfl

/-- The upper bound of the inner envelope is the one that admits less. -/
theorem upper_inner :
    (a.inner b).upper =
      if Sided.order a.fieldType a.upper b.upper = .lt then b.upper
      else a.upper := by
  have ends : UpperBound.order a.fieldType a.upper b.upper = .gt ↔
      Sided.order a.fieldType a.upper b.upper = .lt := by
    rw [UpperBound.order_eq_swap isA.upper (sameType ▸ isB.upper),
      Ordering.swap_eq_gt]
  exact if_congr ends rfl rfl

/-- Ranges that include one value overlap. -/
theorem overlaps_of_includes
    (isValue : value.isOf a.fieldType = true)
    (inA : a.includes value = true)
    (inB : b.includes value = true) :
    a.overlaps b = true := by
  rw [includes, Bool.and_eq_true] at inA inB
  have lowerB := sameType ▸ isB.lower
  have upperB := sameType ▸ isB.upper
  rw [sameType] at inB
  rw [overlaps, Bool.and_eq_true]
  exact ⟨reaches_of_admits isA.lower upperB isValue inA.1 inB.2,
    reaches_of_admits lowerB isA.upper isValue inB.1 inA.2⟩

/-- A range contains another only if it includes all values of the other. -/
theorem includes_of_contains
    (isValue : value.isOf a.fieldType = true)
    (contained : a.contains b = true)
    (inB : b.includes value = true) :
    a.includes value = true := by
  have lowerB := sameType ▸ isB.lower
  have upperB := sameType ▸ isB.upper
  rw [includes, sameType, Bool.and_eq_true] at inB
  rw [contains, Bool.and_eq_true, bne_iff_ne, bne_iff_ne] at contained
  rw [includes, Bool.and_eq_true]
  rw [LowerBound.order_eq, UpperBound.order_eq_swap isA.upper upperB,
    ne_eq, ne_eq, Ordering.swap_eq_lt] at contained
  exact ⟨Sided.all_admits_of_order_ne_gt isA.lower lowerB isValue
    contained.1 inB.1,
    Sided.all_admits_of_order_ne_gt isA.upper upperB isValue contained.2 inB.2⟩

/-- Ranges that are the same include the same. -/
theorem includes_eq_of_same
    (isValue : value.isOf a.fieldType = true)
    (alike : a.same b = true) :
    a.includes value = b.includes value := by
  have lowerB := sameType ▸ isB.lower
  have upperB := sameType ▸ isB.upper
  obtain ⟨lower, upper⟩ := alike_of_same alike
  rw [includes_eq, includes_eq, sameType,
    Sided.all_admits_of_alike isA.lower lowerB isValue lower,
    Sided.all_admits_of_alike isA.upper upperB isValue upper]

/-- The bounds of an outer envelope are of the kind of its type. -/
theorem isOf_outer : (a.outer b).IsOf where
  lower := by
    change LowerBound.IsOf a.fieldType (if _ then b.lower else a.lower)
    split
    · exact sameType ▸ isB.lower
    · exact isA.lower
  upper := by
    change UpperBound.IsOf a.fieldType (if _ then b.upper else a.upper)
    split
    · exact sameType ▸ isB.upper
    · exact isA.upper

/-- The bounds of an inner envelope are of the kind of its type. -/
theorem isOf_inner : (a.inner b).IsOf where
  lower := by
    change LowerBound.IsOf a.fieldType (if _ then b.lower else a.lower)
    split
    · exact sameType ▸ isB.lower
    · exact isA.lower
  upper := by
    change UpperBound.IsOf a.fieldType (if _ then b.upper else a.upper)
    split
    · exact sameType ▸ isB.upper
    · exact isA.upper

/-- The outer envelope of overlapping ranges includes what either includes. -/
theorem includes_outer
    (isValue : value.isOf a.fieldType = true)
    (overlap : a.overlaps b = true) :
    (a.outer b).includes value = (a.includes value || b.includes value) := by
  have lowerB := sameType ▸ isB.lower
  have upperB := sameType ▸ isB.upper
  rw [overlaps, Bool.and_eq_true] at overlap
  have fromA : a.lower.all (Sided.admits a.fieldType · value) = true ∨
      b.upper.all (Sided.admits a.fieldType · value) = true :=
    admits_or_admits_of_reaches isA.lower upperB isValue overlap.1
  have fromB : b.lower.all (Sided.admits a.fieldType · value) = true ∨
      a.upper.all (Sided.admits a.fieldType · value) = true :=
    admits_or_admits_of_reaches lowerB isA.upper isValue overlap.2
  have ofType : (a.outer b).fieldType = a.fieldType := rfl
  rw [includes_eq, ofType, lower_outer, upper_outer isA isB sameType,
    Sided.all_admits_wider isA.lower lowerB isValue,
    Sided.all_admits_wider isA.upper upperB isValue, includes_eq,
    includes_eq, sameType]
  generalize a.lower.all _ = lowerA, b.lower.all _ = lowerB,
    a.upper.all _ = upperA, b.upper.all _ = upperB at fromA fromB ⊢
  revert fromA fromB
  cases lowerA <;> cases lowerB <;> cases upperA <;> cases upperB <;> decide

/-- The inner envelope of ranges includes what both include. -/
theorem includes_inner (isValue : value.isOf a.fieldType = true) :
    (a.inner b).includes value = (a.includes value && b.includes value) := by
  have lowerB := sameType ▸ isB.lower
  have upperB := sameType ▸ isB.upper
  have ofType : (a.inner b).fieldType = a.fieldType := rfl
  rw [includes_eq, ofType, lower_inner, upper_inner isA isB sameType,
    Sided.all_admits_narrower isA.lower lowerB isValue,
    Sided.all_admits_narrower isA.upper upperB isValue, includes_eq,
    includes_eq, sameType, Bool.and_assoc, Bool.and_assoc,
    Bool.and_left_comm (b.lower.all _)]

end Pairs

/-- Overlapping ranges leave a place for a value between any two of their
bounds. -/
theorem reaches_mixed
    (sameType : b.fieldType = a.fieldType)
    (nonemptyA : a.isEmpty = false)
    (nonemptyB : b.isEmpty = false)
    (overlap : a.overlaps b = true)
    (otherLower otherUpper : Prop)
    [Decidable otherLower]
    [Decidable otherUpper] :
    reaches a.fieldType (if otherLower then b.lower else a.lower)
      (if otherUpper then b.upper else a.upper) = true := by
  rw [isEmpty, Bool.not_eq_false'] at nonemptyA nonemptyB
  rw [overlaps, Bool.and_eq_true] at overlap
  rw [sameType] at nonemptyB
  split <;> split
  · exact nonemptyB
  · exact overlap.2
  · exact overlap.1
  · exact nonemptyA

/-- The outer envelope of overlapping ranges leaves a place for a value if they
do. -/
theorem isEmpty_outer
    (sameType : b.fieldType = a.fieldType)
    (nonemptyA : a.isEmpty = false)
    (nonemptyB : b.isEmpty = false)
    (overlap : a.overlaps b = true) :
    (a.outer b).isEmpty = false := by
  have reached := reaches_mixed sameType nonemptyA nonemptyB overlap
  rw [isEmpty, Bool.not_eq_false']
  exact reached _ _

/-- The inner envelope of overlapping ranges leaves a place for a value if they
do. -/
theorem isEmpty_inner
    (sameType : b.fieldType = a.fieldType)
    (nonemptyA : a.isEmpty = false)
    (nonemptyB : b.isEmpty = false)
    (overlap : a.overlaps b = true) :
    (a.inner b).isEmpty = false := by
  have reached := reaches_mixed sameType nonemptyA nonemptyB overlap
  rw [isEmpty, Bool.not_eq_false']
  exact reached _ _

/-- A value that a range loses when it is widened to it: the value stands on a
bound that excludes it, and the other bound does not admit it either. -/
inductive Loses (range : Range) (value : Value) : Prop
  | lower {bound : Value} (isLower : range.lower = some ⟨.gt, bound⟩)
      (meets : bound.equal range.fieldType value = true)
      (outside : range.upper.all (·.admits range.fieldType value) = false)
  | upper {bound : Value} (isUpper : range.upper = some ⟨.lt, bound⟩)
      (meets : bound.equal range.fieldType value = true)
      (outside : range.lower.all (·.admits range.fieldType value) = false)

/-- A range that is widened to a value: it stays on its field, and includes the
value beside what it included before, unless it loses the value. Which other
values it loses stays the same. -/
structure Widens (range : Range) (value : Value) (wider : Range) : Prop where
  scope : wider.toScope = range.toScope
  isOf : wider.IsOf
  includes_iff : ∀ other, other.isOf range.fieldType = true →
    (wider.includes other = true ↔ range.includes other = true ∨
      (value.equal range.fieldType other = true ∧ ¬range.Loses value))
  loses_iff : ∀ other, other.isOf range.fieldType = true →
    value.equal range.fieldType other = false →
      (wider.Loses other ↔ range.Loses other)

/-- A range that takes in a value: it stays on its field, and includes the value
beside what it included before. -/
structure TakesIn (range : Range) (value : Value) (wider : Range) : Prop where
  scope : wider.toScope = range.toScope
  isOf : wider.IsOf
  nonempty : wider.isEmpty = false
  includes : ∀ other, other.isOf range.fieldType = true →
    wider.includes other =
      (range.includes other || value.equal range.fieldType other)

/-- A range seen from one of its sides: what it includes and what it loses, by
the bound on that side and by the bound on the other. -/
structure IsBetween {Near Far : Type} [Sided Near] [Sided Far] (range : Range)
    (near : Option Near) (far : Option Far) : Prop where
  isNear : Sided.IsOf range.fieldType near
  isFar : Sided.IsOf range.fieldType far
  includes_eq : ∀ value, range.includes value =
    (near.all (Sided.admits range.fieldType · value) &&
      far.all (Sided.admits range.fieldType · value))
  loses_iff : ∀ value, range.Loses value ↔
    Sided.Excludes range.fieldType near value ∧
        far.all (Sided.admits range.fieldType · value) = false ∨
      Sided.Excludes range.fieldType far value ∧
        near.all (Sided.admits range.fieldType · value) = false

/-- A range loses what one bound excludes and the other does not admit. -/
theorem loses_iff (range : Range) (value : Value) :
    range.Loses value ↔
      Sided.Excludes range.fieldType range.lower value ∧
          range.upper.all (Sided.admits range.fieldType · value) = false ∨
        Sided.Excludes range.fieldType range.upper value ∧
          range.lower.all (Sided.admits range.fieldType · value) = false := by
  constructor
  · rintro (⟨isLower, meets, outside⟩ | ⟨isUpper, meets, outside⟩)
    · exact .inl ⟨⟨_, isLower, rfl, meets⟩, outside⟩
    · exact .inr ⟨⟨_, isUpper, rfl, meets⟩, outside⟩
  · rintro (⟨⟨⟨_ | _, _⟩, isLower, isOpen, meets⟩, outside⟩ |
      ⟨⟨⟨_ | _, _⟩, isUpper, isOpen, meets⟩, outside⟩)
    · exact .lower isLower meets outside
    · cases isOpen
    · exact .upper isUpper meets outside
    · cases isOpen

section IsBetween

variable {Near Far : Type} [Sided Near] [Sided Far] {near : Option Near}
  {far : Option Far}

theorem IsBetween.symm (between : range.IsBetween near far) :
    range.IsBetween far near where
  isNear := between.isFar
  isFar := between.isNear
  includes_eq value := by rw [between.includes_eq, Bool.and_comm]
  loses_iff value := by rw [between.loses_iff, or_comm]

/-- A value that a bound excludes is lost exactly if the other bound does not
admit it. -/
theorem IsBetween.loses_iff_of_excludes
    (between : range.IsBetween near far)
    (isValue : value.isOf range.fieldType = true)
    (excluded : Sided.Excludes range.fieldType near value) :
    range.Loses value ↔
      far.all (Sided.admits range.fieldType · value) = false := by
  rw [between.loses_iff, and_iff_right excluded]
  refine or_iff_left_of_imp fun ⟨excludedFar, _⟩ => ?_
  exact Sided.all_admits_of_excludes between.isFar isValue excludedFar

/-- A range is widened to a value that a bound of it excludes, where an
inclusive bound takes its place. -/
theorem IsBetween.widens
    {bound closed : Near}
    {wider : Range}
    (before : range.IsBetween (some bound) far)
    (after : wider.IsBetween (some closed) far)
    (closure : Sided.IsClosure closed bound)
    (scope : wider.toScope = range.toScope)
    (isOf : wider.IsOf)
    (isValue : value.isOf range.fieldType = true)
    (meets : (Sided.value bound).equal range.fieldType value = true) :
    range.Widens value wider := by
  have sameType : wider.fieldType = range.fieldType :=
    congrArg (fun scope => scope.type.fieldType) scope
  have isBound := before.isNear bound rfl
  have excluded : Sided.Excludes range.fieldType (some bound) value :=
    ⟨bound, rfl, closure.isInclusive_bound, meets⟩
  refine ⟨scope, isOf, fun other isOther => ?_, fun other isOther differs => ?_⟩
  · rw [before.loses_iff_of_excludes isValue excluded, Bool.not_eq_false,
      after.includes_eq, before.includes_eq, sameType, Option.all_some,
      Option.all_some, Sided.admits_closure isBound isOther closure,
      Value.equal_congr isBound isValue isOther meets,
      Bool.and_or_distrib_right, Bool.or_eq_true,
      Bool.and_eq_true (Value.equal _ _ _)]
    refine or_congr_right (and_congr_right fun same => ?_)
    rw [Sided.all_admits_congr before.isFar isValue isOther same]
  · rw [← Value.equal_congr isBound isValue isOther meets] at differs
    have closedExcludes :
        ¬Sided.Excludes range.fieldType (some closed) other := by
      rintro ⟨_, ⟨⟩, isOpen, _⟩
      exact Bool.noConfusion (closure.isInclusive_closed.symm.trans isOpen)
    have boundExcludes :
        ¬Sided.Excludes range.fieldType (some bound) other := by
      rintro ⟨_, ⟨⟩, _, meets⟩
      exact Bool.noConfusion (differs.symm.trans meets)
    rw [after.loses_iff, before.loses_iff, sameType,
      iff_false_intro closedExcludes, iff_false_intro boundExcludes,
      Option.all_some, Option.all_some,
      Sided.admits_closure isBound isOther closure, differs, Bool.or_false]

end IsBetween

section TakingIn

variable (isRange : range.IsOf) (isValue : value.isOf range.fieldType = true)
include isRange

theorem isBetween : range.IsBetween range.lower range.upper :=
  ⟨isRange.lower, isRange.upper, range.includes_eq, range.loses_iff⟩

include isValue

/-- A range is widened to a value that meets its exclusive lower bound. -/
theorem widens_lower
    {bound : Value}
    (lower : range.lower = some ⟨.gt, bound⟩)
    (meets : bound.equal range.fieldType value = true) :
    range.Widens value { range with lower := some ⟨.gte, bound⟩ } := by
  have isOf : IsOf { range with lower := some ⟨.gte, bound⟩ } :=
    ⟨by rintro _ ⟨⟩; exact isRange.lower ⟨.gt, bound⟩ lower, isRange.upper⟩
  exact (lower ▸ isBetween isRange).widens (isBetween isOf)
    ⟨rfl, rfl, rfl⟩ rfl isOf isValue meets

/-- A range is widened to a value that meets its exclusive upper bound. -/
theorem widens_upper
    {bound : Value}
    (upper : range.upper = some ⟨.lt, bound⟩)
    (meets : bound.equal range.fieldType value = true) :
    range.Widens value { range with upper := some ⟨.lte, bound⟩ } := by
  have isOf : IsOf { range with upper := some ⟨.lte, bound⟩ } :=
    ⟨isRange.lower, by rintro _ ⟨⟩; exact isRange.upper ⟨.lt, bound⟩ upper⟩
  exact (upper ▸ isBetween isRange).symm.widens (isBetween isOf).symm
    ⟨rfl, rfl, rfl⟩ rfl isOf
    isValue meets

/-- A range that is widened to a value takes it in. -/
theorem widens_of_widenTo? {wider : Range}
    (widened : range.widenTo? value = some wider) :
    range.Widens value wider := by
  unfold widenTo? at widened
  dsimp only at widened
  split at widened
  · rename_i bound lower
    split at widened
    · rename_i meets
      cases widened
      exact widens_lower isRange isValue lower meets
    · split at widened
      · rename_i bound upper
        split at widened
        · rename_i meets
          cases widened
          exact widens_upper isRange isValue upper meets
        · cases widened
      · cases widened
  · rename_i bound upper _
    split at widened
    · rename_i meets
      cases widened
      exact widens_upper isRange isValue upper meets
    · cases widened
  · cases widened

/-- A range is widened to a value inside it or on a bound that excludes it. -/
theorem widens_of_takeIn? {wider : Range}
    (taken : range.takeIn? value = some wider) :
    range.Widens value wider := by
  unfold takeIn? at taken
  split at taken
  · rename_i included
    cases taken
    refine ⟨rfl, isRange, fun other isOther => ⟨.inl, ?_⟩, fun _ _ _ => .rfl⟩
    rintro (included | ⟨same, _⟩)
    · exact included
    · rwa [← includes_congr isRange isValue isOther same]
  · exact widens_of_widenTo? isRange isValue taken

variable (nonempty : range.isEmpty = false)
include nonempty

/-- A range that leaves a place for a value loses none. -/
theorem not_loses : ¬range.Loses value := by
  rw [isEmpty, Bool.not_eq_false'] at nonempty
  have admitted : range.lower.all (Sided.admits range.fieldType · value) =
      true ∨
      range.upper.all (Sided.admits range.fieldType · value) = true :=
    admits_or_admits_of_reaches isRange.lower isRange.upper isValue nonempty
  rw [loses_iff]
  rintro (⟨excluded, outside⟩ | ⟨excluded, outside⟩)
  · rw [outside, Sided.all_admits_of_excludes isRange.lower isValue excluded]
      at admitted
    simp at admitted
  · rw [outside, Sided.all_admits_of_excludes isRange.upper isValue excluded]
      at admitted
    simp at admitted

/-- A range takes in a value inside it or on a bound that excludes it. -/
theorem takesIn_of_takeIn? {wider : Range}
    (taken : range.takeIn? value = some wider) :
    range.TakesIn value wider := by
  have widens := widens_of_takeIn? isRange isValue taken
  have kept := not_loses isRange isValue nonempty
  have included : ∀ other, other.isOf range.fieldType = true →
      wider.includes other =
        (range.includes other || value.equal range.fieldType other) := by
    intro other isOther
    rw [Bool.eq_iff_iff, widens.includes_iff other isOther, Bool.or_eq_true,
      and_iff_left kept]
  refine ⟨widens.scope, widens.isOf, ?_, included⟩
  have sameType : wider.fieldType = range.fieldType :=
    congrArg (fun scope => scope.type.fieldType) widens.scope
  apply not_isEmpty_of_includes widens.isOf (sameType ▸ isValue)
  rw [included value isValue, Value.equal_self isValue, Bool.or_true]

end TakingIn

/-- What a range makes of values that it takes in one after the other: a range
on the same field and the values that stay outside, which together cover what
they covered before. -/
structure TakesInAll (range : Range) (values : List Value) (wider : Range)
    (outside : List Value) : Prop where
  scope : wider.toScope = range.toScope
  isOf : wider.IsOf
  nonempty : wider.isEmpty = false
  sublist : outside.Sublist values
  covers : ∀ other, other.isOf range.fieldType = true →
    (wider.includes other || range.meets outside other) =
      (range.includes other || range.meets values other)

/-- Taking in values one after the other covers the range and the values. -/
theorem takesInAll_takeInAll
    (values : List Value)
    (isRange : range.IsOf)
    (nonempty : range.isEmpty = false)
    (kinds : ∀ value ∈ values, value.isOf range.fieldType = true) :
    range.TakesInAll values (range.takeInAll values).1
      (range.takeInAll values).2 := by
  induction values generalizing range with
  | nil => exact ⟨rfl, isRange, nonempty, .refl _, fun other isOther => rfl⟩
  | cons value rest hypothesis =>
      obtain ⟨isValue, kinds⟩ := List.forall_mem_cons.mp kinds
      rw [takeInAll]
      split
      · rename_i wider taken
        have takes := takesIn_of_takeIn? isRange isValue nonempty taken
        have sameType : wider.fieldType = range.fieldType :=
          congrArg (fun scope => scope.type.fieldType) takes.scope
        have all := hypothesis takes.isOf takes.nonempty (sameType ▸ kinds)
        refine ⟨all.scope.trans takes.scope, all.isOf, all.nonempty,
          all.sublist.cons value, ?_⟩
        intro other isOther
        have covers := all.covers other (sameType ▸ isOther)
        rw [takes.scope, takes.includes other isOther] at covers
        rw [covers, Scope.meets, Scope.meets, List.any_cons, Bool.or_assoc]
        rfl
      · have all := hypothesis isRange nonempty kinds
        refine ⟨all.scope, all.isOf, all.nonempty, all.sublist.cons_cons value,
          ?_⟩
        intro other isOther
        have covers := all.covers other isOther
        rw [Scope.meets, Scope.meets, List.any_cons, List.any_cons,
          Bool.or_left_comm, Bool.or_left_comm (range.includes other)]
        exact congrArg (_ || ·) covers

end Range

end SearchQuery
