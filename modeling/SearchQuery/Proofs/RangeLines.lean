import SearchQuery.Proofs.Agreement
import SearchQuery.Proofs.Cuts

/-!
# Ranges on one line

Ranges with one scope and the same options lie on one line. There they overlap,
contain each other and unite as intervals of cuts do, and their union is one
range where they overlap and both of them side by side where they do not.
-/

namespace SearchQuery
namespace Range

/-- The tree of a range. -/
abbrev node (range : Range) : Node := .leaf (.range range)

theorem node_injective : Function.Injective node := by
  rintro a b ⟨⟩
  rfl

/-- A range on a line: it has the scope of the line, its options, bounds of the
kind of its type, and a place for a value. -/
structure IsOn (line range : Range) : Prop where
  scope : range.toScope.same line.toScope = true
  relation : range.relation = line.relation
  timeZone : range.timeZone = line.timeZone
  isOf : range.IsOf
  nonempty : range.isEmpty = false

/-- Ranges are alike if they have the same scope, the same options and equal
bounds. -/
structure Alike (a b : Range) : Prop where
  scope : a.toScope.same b.toScope = true
  relation : a.relation = b.relation
  timeZone : a.timeZone = b.timeZone
  lower : LowerBound.order a.fieldType a.lower b.lower = .eq
  upper : UpperBound.order a.fieldType a.upper b.upper = .eq

/-- Ranges do not overlap, whichever is asked. -/
def Apart (a b : Range) : Prop := a.overlaps b = false ∧ b.overlaps a = false

instance : Std.Symm Apart := ⟨fun _ _ => And.symm⟩

/-- What overlapping ranges are united to: the first of them where they are the
same, and their outer envelope otherwise. -/
def hull (a b : Range) : Range := if a.same b then a else a.outer b

variable {line a b range : Range}

namespace IsOn

theorem parts (isOn : line.IsOn range) :
    range.field = line.field ∧ range.type = line.type ∧
      range.boost.equals line.boost = true ∧ range.filter = line.filter := by
  have scope := isOn.scope
  simp only [Scope.same, Bool.and_eq_true, beq_iff_eq] at scope
  exact ⟨scope.1.1.1, scope.1.1.2, scope.1.2, scope.2⟩

theorem fieldType_eq (isOn : line.IsOn range) :
    range.fieldType = line.fieldType :=
  congrArg ValueType.fieldType isOn.parts.2.1

variable (isOnA : line.IsOn a) (isOnB : line.IsOn b)
include isOnA isOnB

theorem equals_boost : a.boost.equals b.boost = true :=
  Binary64.equals_of_equals isOnA.parts.2.2.1 isOnB.parts.2.2.1

theorem sameScope : a.toScope.same b.toScope = true := by
  obtain ⟨fieldA, typeA, _, filterA⟩ := isOnA.parts
  obtain ⟨fieldB, typeB, _, filterB⟩ := isOnB.parts
  simp [Scope.same, fieldA, fieldB, typeA, typeB, filterA, filterB,
    isOnA.equals_boost isOnB]

theorem sameOptions : a.sameOptions b = true := by
  obtain ⟨_, _, _, filterA⟩ := isOnA.parts
  obtain ⟨_, _, _, filterB⟩ := isOnB.parts
  simp [Range.sameOptions, filterA, filterB, isOnA.relation, isOnB.relation,
    isOnA.timeZone, isOnB.timeZone]

theorem sameType : b.fieldType = a.fieldType :=
  isOnB.fieldType_eq.trans isOnA.fieldType_eq.symm

variable (ranking : Ranking line.fieldType)

theorem overlaps_iff :
    a.overlaps b = true ↔
      a.beginning ranking < b.ending ranking ∧ b.beginning ranking <
        a.ending ranking :=
  Range.overlaps_iff ranking isOnA.isOf isOnB.isOf isOnA.fieldType_eq
    isOnB.fieldType_eq

theorem contains_iff :
    a.contains b = true ↔
      a.beginning ranking ≤ b.beginning ranking ∧ b.ending ranking ≤
        a.ending ranking :=
  Range.contains_iff ranking isOnA.isOf isOnB.isOf isOnA.fieldType_eq
    isOnB.fieldType_eq

/-- Ranges on one line that are the same begin and end at the same cuts. -/
theorem cuts_eq_of_same (alike : a.same b = true) :
    a.beginning ranking = b.beginning ranking ∧ a.ending ranking =
      b.ending ranking := by
  obtain ⟨lower, upper⟩ := alike_of_same alike
  exact ⟨LowerBound.cut_eq_of_alike ranking
    (isOnA.fieldType_eq ▸ isOnA.isOf.lower)
      (isOnB.fieldType_eq ▸ isOnB.isOf.lower) lower,
    UpperBound.cut_eq_of_alike ranking (isOnA.fieldType_eq ▸ isOnA.isOf.upper)
      (isOnB.fieldType_eq ▸ isOnB.isOf.upper) upper⟩

/-- What ranges on one line are united to begins where the first of them begins,
and ends where the last of them ends. -/
theorem cuts_hull :
    (a.hull b).beginning ranking =
      min (a.beginning ranking) (b.beginning ranking) ∧
      (a.hull b).ending ranking =
        max (a.ending ranking) (b.ending ranking) := by
  unfold hull
  split
  · rename_i alike
    obtain ⟨begins, ends⟩ := isOnA.cuts_eq_of_same isOnB ranking alike
    rw [begins, ends, min_self, max_self]
    exact ⟨rfl, rfl⟩
  · exact ⟨beginning_outer ranking isOnA.isOf isOnB.isOf isOnA.fieldType_eq
      isOnB.fieldType_eq,
      ending_outer ranking isOnA.isOf isOnB.isOf isOnA.fieldType_eq
        isOnB.fieldType_eq⟩

omit ranking

theorem overlaps_comm : a.overlaps b = b.overlaps a :=
  Range.overlaps_comm (isOnA.sameType isOnB)

/-- Ranges on one line that are the same overlap. -/
theorem overlaps_of_same (alike : a.same b = true) : a.overlaps b = true := by
  obtain ⟨ranking⟩ := exists_ranking line.fieldType
  obtain ⟨begins, ends⟩ := isOnA.cuts_eq_of_same isOnB ranking alike
  have place :=
    (isEmpty_eq_false_iff ranking isOnA.isOf isOnA.fieldType_eq).mp
      isOnA.nonempty
  rw [isOnA.overlaps_iff isOnB ranking, ← begins, ← ends]
  exact ⟨place, place⟩

/-- What overlapping ranges on a line are united to is on the line. -/
theorem hull (overlap : a.overlaps b = true) : line.IsOn (a.hull b) := by
  unfold Range.hull
  split
  · exact isOnA
  · exact ⟨isOnA.scope, isOnA.relation, isOnA.timeZone,
      isOf_outer isOnA.isOf isOnB.isOf (isOnA.sameType isOnB),
      isEmpty_outer (isOnA.sameType isOnB) isOnA.nonempty
        isOnB.nonempty overlap⟩

/-- What overlapping ranges on a line are united to includes what either
includes. -/
theorem includes_hull
    {value : Value}
    (overlap : a.overlaps b = true)
    (isValue : value.isOf line.fieldType = true) :
    (a.hull b).includes value = (a.includes value || b.includes value) := by
  have sameType := isOnA.sameType isOnB
  rw [← isOnA.fieldType_eq] at isValue
  unfold Range.hull
  split
  · rename_i alike
    rw [← includes_eq_of_same isOnA.isOf isOnB.isOf sameType isValue alike,
      Bool.or_self]
  · exact includes_outer isOnA.isOf isOnB.isOf sameType isValue overlap

/-- Ranges on one line unite to one range if they overlap, and stand side by
side otherwise. -/
theorem union_eq :
    Leaf.merge .union (.range a) (.range b) =
      .ok (if a.overlaps b then (a.hull b).node
        else .either a.node b.node) := by
  have sameKey : (Leaf.range a).key = (Leaf.range b).key :=
    isOnA.parts.1.trans isOnB.parts.1.symm
  have agree : agreeOnBoost a.field a.boost b.boost = .ok () := by
    rw [agreeOnBoost, isOnA.equals_boost isOnB, if_pos rfl]
  have unites : Leaf.merge .union (.range a) (.range b) =
      if a.same b then .ok a.node
      else if (Leaf.range a).key = (Leaf.range b).key then a.union b
      else .ok (.either a.node b.node) := rfl
  rw [unites, if_pos sameKey, Range.union, isOnA.sameOptions isOnB,
    Bool.and_true, agreed, agree, Range.hull]
  cases alike : a.same b with
  | true =>
      rw [if_pos rfl, if_pos rfl, isOnA.overlaps_of_same isOnB alike,
        if_pos rfl]
  | false => cases a.overlaps b <;> rfl

/-- The range that overlapping ranges on a line are united to contains both of
them. -/
theorem contains_hull (overlap : a.overlaps b = true) :
    (a.hull b).contains a = true ∧ (a.hull b).contains b = true := by
  obtain ⟨ranking⟩ := exists_ranking line.fieldType
  have isOnHull := isOnA.hull isOnB overlap
  obtain ⟨begins, ends⟩ := isOnA.cuts_hull isOnB ranking
  rw [isOnHull.contains_iff isOnA ranking, isOnHull.contains_iff isOnB ranking,
    begins, ends]
  exact ⟨⟨min_le_left _ _, le_max_left _ _⟩, min_le_right _ _, le_max_right _ _⟩

variable {whole : Range} (isOnWhole : line.IsOn whole)
include isOnWhole

/-- A range on a line that contains two others contains what they are united
to. -/
theorem contains_hull_of_contains
    (overlap : a.overlaps b = true)
    (containsA : whole.contains a = true)
    (containsB : whole.contains b = true) :
    whole.contains (a.hull b) = true := by
  obtain ⟨ranking⟩ := exists_ranking line.fieldType
  obtain ⟨begins, ends⟩ := isOnA.cuts_hull isOnB ranking
  rw [isOnWhole.contains_iff isOnA ranking] at containsA
  rw [isOnWhole.contains_iff isOnB ranking] at containsB
  rw [isOnWhole.contains_iff (isOnA.hull isOnB overlap) ranking, begins, ends]
  exact ⟨le_min containsA.1 containsB.1, max_le containsA.2 containsB.2⟩

/-- What contains a range that contains another contains the other. -/
theorem contains_trans
    (containsA : whole.contains a = true)
    (containsB : a.contains b = true) :
    whole.contains b = true := by
  obtain ⟨ranking⟩ := exists_ranking line.fieldType
  rw [isOnWhole.contains_iff isOnA ranking] at containsA
  rw [isOnA.contains_iff isOnB ranking] at containsB
  rw [isOnWhole.contains_iff isOnB ranking]
  exact ⟨containsA.1.trans containsB.1, containsB.2.trans containsA.2⟩

/-- Ranges on a line that contain overlapping ranges overlap. -/
theorem overlaps_of_contains
    {other : Range}
    (isOnOther : line.IsOn other)
    (overlap : a.overlaps b = true)
    (containsA : whole.contains a = true)
    (containsB : other.contains b = true) :
    whole.overlaps other = true := by
  obtain ⟨ranking⟩ := exists_ranking line.fieldType
  rw [isOnA.overlaps_iff isOnB ranking] at overlap
  rw [isOnWhole.contains_iff isOnA ranking] at containsA
  rw [isOnOther.contains_iff isOnB ranking] at containsB
  rw [isOnWhole.overlaps_iff isOnOther ranking]
  exact ⟨(containsA.1.trans_lt overlap.1).trans_le containsB.2,
    (containsB.1.trans_lt overlap.2).trans_le containsA.2⟩

end IsOn

theorem IsOn.overlaps_and_contains_self (isOn : line.IsOn range) :
    range.overlaps range = true ∧ range.contains range = true := by
  obtain ⟨ranking⟩ := exists_ranking line.fieldType
  have place :=
    (isEmpty_eq_false_iff ranking isOn.isOf isOn.fieldType_eq).mp isOn.nonempty
  rw [isOn.overlaps_iff isOn ranking, isOn.contains_iff isOn ranking]
  exact ⟨⟨place, place⟩, le_rfl, le_rfl⟩

/-- Ranges on a line that contain each other are alike. -/
theorem IsOn.alike_of_contains
    (isOnA : line.IsOn a)
    (isOnB : line.IsOn b)
    (containsB : a.contains b = true)
    (containsA : b.contains a = true) :
    a.Alike b := by
  have sameType := isOnA.sameType isOnB
  have lowerB : LowerBound.IsOf a.fieldType b.lower :=
    sameType ▸ isOnB.isOf.lower
  have upperB : UpperBound.IsOf a.fieldType b.upper :=
    sameType ▸ isOnB.isOf.upper
  rw [contains, Bool.and_eq_true, bne_iff_ne, bne_iff_ne] at containsA containsB
  rw [sameType, LowerBound.order_swap isOnA.isOf.lower lowerB,
    UpperBound.order_swap isOnA.isOf.upper upperB] at containsA
  refine ⟨isOnA.sameScope isOnB, isOnA.relation.trans isOnB.relation.symm,
    isOnA.timeZone.trans isOnB.timeZone.symm, ?_, ?_⟩
  · cases order : LowerBound.order a.fieldType a.lower b.lower <;> simp_all
  · cases order : UpperBound.order a.fieldType a.upper b.upper <;> simp_all

end Range
end SearchQuery
