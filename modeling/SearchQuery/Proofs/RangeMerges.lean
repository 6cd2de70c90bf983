import SearchQuery.Proofs.ExactMerges

/-!
# Merges of ranges are right

Envelopes stand for the union and the intersection of ranges that overlap, and
exact values are taken in by ranges that leave a place for a value. Where an
intersection leaves no place for one, no document meets both sides.
-/

namespace SearchQuery
namespace Range

open MergeOperation

variable {discipline : Discipline} {a b range : Range} {set : ValueSet}
  {term : Term}

theorem asks_range (keeps : range.Keeps discipline) :
    (Leaf.range range).Asks discipline range.field range.includes where
  formed := .leaf rfl keeps
  holds _ _ _ := Node.holds_leaf _

theorem respects_includes (isRange : range.IsOf) :
    Value.Respects range.fieldType range.includes :=
  fun _ _ isFirst isSecond same => includes_congr isRange isFirst isSecond same

section Pairs

variable (keepsA : a.Keeps discipline)
  (keepsB : b.Keeps discipline) (sameField : a.field = b.field)
include keepsA keepsB sameField

theorem fieldType_eq : b.fieldType = a.fieldType := by
  rw [fieldType, fieldType, keepsA.typed, keepsB.typed, sameField]

/-- The outer envelope of overlapping ranges keeps to the discipline. -/
theorem keeps_outer (overlap : a.overlaps b = true) :
    (a.outer b).Keeps discipline where
  typed := keepsA.typed
  ordered := keepsA.ordered
  isOf :=
    isOf_outer keepsA.isOf keepsB.isOf (fieldType_eq keepsA keepsB sameField)
  nonempty tight := isEmpty_outer (fieldType_eq keepsA keepsB sameField)
    (keepsA.nonempty tight)
    (keepsB.nonempty tight) overlap

/-- The inner envelope of overlapping ranges keeps to the discipline. -/
theorem keeps_inner (overlap : a.overlaps b = true) :
    (a.inner b).Keeps discipline where
  typed := keepsA.typed
  ordered := keepsA.ordered
  isOf :=
    isOf_inner keepsA.isOf keepsB.isOf (fieldType_eq keepsA keepsB sameField)
  nonempty tight := isEmpty_inner (fieldType_eq keepsA keepsB sameField)
    (keepsA.nonempty tight)
    (keepsB.nonempty tight) overlap

/-- The union of ranges is right. -/
theorem merges_union :
    MergeOperation.union.Merges discipline (.leaf (.range a)) (.leaf (.range b))
      (a.union b) := by
  have sameType := fieldType_eq keepsA keepsB sameField
  have asksA := asks_range keepsA
  have asksB := asks_range keepsB
  rw [← sameField] at asksB
  unfold Range.union
  split
  · rename_i joins
    have overlap := (Bool.and_eq_true _ _ ▸ joins).1
    refine .agreed fun _ => ?_
    apply (asks_range
      (keeps_outer keepsA keepsB sameField overlap)).isJoin_union asksA asksB
    intro value isValue
    change value.isOf (discipline.types a.field).fieldType = true at isValue
    rw [← keepsA.typed] at isValue
    exact includes_outer keepsA.isOf keepsB.isOf sameType isValue overlap
  · exact .either asksA.formed asksB.formed

/-- The intersection of ranges is right. -/
theorem merges_inter :
    MergeOperation.inter.Merges discipline (.leaf (.range a)) (.leaf (.range b))
      (a.inter b) := by
  have sameType := fieldType_eq keepsA keepsB sameField
  have asksA := asks_range keepsA
  have asksB := asks_range keepsB
  rw [← sameField] at asksB
  unfold Range.inter
  dsimp only
  split
  · exact .both asksA.formed asksB.formed
  · split
    · split
      · rename_i contained
        refine .agreed fun _ => ?_
        apply asksA.isJoin_inter_of_imp asksA asksB (fun value _ => rfl)
        intro value isValue
        rw [sameField, ← keepsB.typed] at isValue
        exact includes_of_contains keepsB.isOf keepsA.isOf sameType.symm
          isValue contained
      · split
        · rename_i contained
          refine .agreed fun _ => .symm ?_
          apply asksB.isJoin_inter_of_imp asksB asksA (fun value _ => rfl)
          intro value isValue
          rw [← keepsA.typed] at isValue
          exact includes_of_contains keepsA.isOf keepsB.isOf sameType
            isValue contained
        · exact .both asksA.formed asksB.formed
    · rename_i single
      rw [Bool.not_eq_true, keepsA.typed] at single
      split
      · rename_i overlap
        refine .agreed fun _ => ?_
        apply (asks_range
          (keeps_inner keepsA keepsB sameField overlap)).isJoin_inter
          asksA asksB
          single
        intro value isValue
        change value.isOf (discipline.types a.field).fieldType = true at isValue
        rw [← keepsA.typed] at isValue
        exact includes_inner keepsA.isOf keepsB.isOf sameType isValue
      · rename_i disjoint
        apply asksA.excludes asksB single
        intro value isValue
        rw [← keepsA.typed] at isValue
        rw [Bool.and_eq_false_imp]
        intro inA
        rw [Bool.eq_false_iff]
        intro inB
        exact disjoint
          (overlaps_of_includes keepsA.isOf keepsB.isOf sameType
            isValue inA inB)

end Pairs

section Exact

variable (keeps : range.Keeps discipline)
include keeps

/-- The intersection of a range and a term is right. -/
theorem merges_interTerm
    (keepsTerm : term.Keeps discipline.types)
    (sameField : range.field = term.field) :
    MergeOperation.inter.Merges discipline (.leaf (.range range))
      (.leaf (.term term))
      (range.interTerm term) := by
  have asks := asks_range keeps
  have asksTerm := Term.asks_term keepsTerm
  rw [← sameField] at asksTerm
  unfold interTerm
  split
  · rename_i included
    refine .agreed fun _ => .symm ?_
    apply asksTerm.isJoin_inter_of_imp asksTerm asks (fun value _ => rfl)
    intro value isValue meets
    have sameType : term.type = range.type := by
      rw [keeps.typed, keepsTerm.typed, sameField]
    rw [Scope.meets, List.any_cons, List.any_nil, Bool.or_false, Scope.equal,
      sameType] at meets
    have kind := sameType ▸ keepsTerm.kind
    rw [← keeps.typed] at isValue
    rw [← respects_includes keeps.isOf term.value value kind isValue meets]
    exact included
  · exact .both asks.formed asksTerm.formed

/-- The intersection of a range and a value set is right. -/
theorem merges_interValues
    (keepsSet : set.Keeps discipline.types)
    (sameField : range.field = set.field) :
    MergeOperation.inter.Merges discipline (.leaf (.range range))
      (.leaf (.valueSet set))
      (range.interValues set) := by
  have asks := asks_range keeps
  have asksSet := ValueSet.asks_valueSet keepsSet
  have sameType : range.type = set.type := by
    rw [keeps.typed, keepsSet.typed, sameField]
  have respects : Value.Respects set.type.fieldType range.includes := by
    rw [← sameType]
    exact respects_includes keeps.isOf
  rw [sameField] at asks
  have lists := keepsSet.lists
  unfold interValues
  dsimp only
  cases array : range.type.isArray with
  | true =>
      rw [if_pos rfl]
      split
      · rename_i all
        have complete := List.length_filter_eq_length_iff.mp (beq_iff_eq.mp all)
        have nonempty : set.values.filter range.includes ≠ [] := by
          rw [List.filter_eq_self.mpr complete]
          exact lists.nonempty
        exact .agreed fun _ =>
          lists.isJoin_filter asks asksSet respects nonempty fun _ => complete
      · exact .both asks.formed asksSet.formed
  | false =>
      rw [if_neg Bool.false_ne_true]
      split
      · rename_i some
        have nonempty : set.values.filter range.includes ≠ [] := by
          simpa using some
        refine .agreed fun _ =>
          lists.isJoin_filter asks asksSet respects nonempty fun isArray => ?_
        rw [← sameType, array] at isArray
        cases isArray
      · exact .both asks.formed asksSet.formed

/-- A range that has taken in values asks for what it includes. -/
theorem asks_widened
    {wider : Range}
    (sameScope : wider.toScope = range.toScope)
    (isOf : wider.IsOf)
    (nonempty : wider.isEmpty = false) :
    (Leaf.range wider).Asks discipline range.field wider.includes := by
  have keepsWider : wider.Keeps discipline :=
    ⟨by rw [sameScope, keeps.typed], sameScope ▸ keeps.ordered, isOf,
      fun _ => nonempty⟩
  have asksWider := asks_range keepsWider
  rw [sameScope] at asksWider
  exact asksWider

variable (tight : discipline.tight = true)
include tight

/-- The union of a range that leaves a place for a value and a term is right. -/
theorem merges_unionTerm
    (keepsTerm : term.Keeps discipline.types)
    (sameField : range.field = term.field) :
    MergeOperation.union.Merges discipline (.leaf (.range range))
      (.leaf (.term term))
      (range.unionTerm term) := by
  have asks := asks_range keeps
  have asksTerm := Term.asks_term keepsTerm
  have sameType : term.type = range.type := by
    rw [keeps.typed, keepsTerm.typed, sameField]
  have kind : term.value.isOf range.fieldType = true := by
    rw [fieldType, ← sameType]
    exact keepsTerm.kind
  rw [← sameField] at asksTerm
  unfold unionTerm
  split
  · rename_i wider taken
    have takes :=
      takesIn_of_takeIn? keeps.isOf kind (keeps.nonempty tight) taken
    have asksWider := asks_widened keeps takes.scope takes.isOf takes.nonempty
    refine .agreed fun _ => ?_
    apply asksWider.isJoin_union asks asksTerm
    intro value isValue
    rw [← keeps.typed] at isValue
    rw [takes.includes value isValue, Scope.meets, List.any_cons, List.any_nil,
      Bool.or_false, Scope.equal, sameType]
    rfl
  · exact .either asks.formed asksTerm.formed

/-- The union of a range that leaves a place for a value and a value set is
right. -/
theorem merges_unionValues
    (keepsSet : set.Keeps discipline.types)
    (sameField : range.field = set.field) :
    MergeOperation.union.Merges discipline (.leaf (.range range))
      (.leaf (.valueSet set))
      (range.unionValues set) := by
  have asks := asks_range keeps
  have asksSet := ValueSet.asks_valueSet keepsSet
  have sameType : set.type = range.type := by
    rw [keeps.typed, keepsSet.typed, sameField]
  have kinds : ∀ value ∈ set.values, value.isOf range.fieldType = true := by
    rw [fieldType, ← sameType]
    exact keepsSet.arranged.kinds
  have takes :=
    takesInAll_takeInAll set.values keeps.isOf (keeps.nonempty tight) kinds
  unfold unionValues
  generalize range.takeInAll set.values = taken at takes
  obtain ⟨wider, outside⟩ := taken
  replace takes : range.TakesInAll set.values wider outside := takes
  have asksWider := asks_widened keeps takes.scope takes.isOf takes.nonempty
  have covers : ∀ value,
      value.isOf (discipline.types range.field).fieldType = true →
      (wider.includes value || set.meets outside value) =
        (range.includes value || set.meets set.values value) := by
    intro value isValue
    rw [← keeps.typed] at isValue
    rw [Scope.meets_congr sameType]
    exact takes.covers value isValue
  rw [← sameField] at asksSet
  dsimp only
  split
  · rename_i untouched
    have unchanged := takes.sublist.eq_of_length untouched
    rw [unchanged] at covers
    exact asksWider.isJoin_either asksSet asks asksSet covers
  · refine .agreed fun _ => ?_
    by_cases empty : outside = []
    · rw [empty] at covers ⊢
      apply asksWider.isJoin_union asks asksSet
      intro value isValue
      rw [← covers value isValue]
      exact (Bool.or_false _).symm
    · have lists := keepsSet.lists.of_subset empty takes.sublist.subset
      have asksOutside := lists.asks_ofValues
      rw [← sameField] at asksOutside
      split
      · rename_i isNothing
        have condition := asksOutside.formed.condition_leaf
        rw [isNothing] at condition
        cases condition
      · exact asksWider.isJoin_either asksOutside asks asksSet covers

end Exact

end Range
end SearchQuery
