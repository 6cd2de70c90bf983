import SearchQuery.Proofs.Totals

/-!
# Sizes of trees

The size of a tree is the number of its leaves, of which nothing does not count,
or the number of the values that its terms and sets of values ask for. Leaves
merge to one leaf or stay two, and every value of a merged leaf comes from a
leaf of its own, so a merge makes neither size larger than it was on both sides
together.
-/

namespace SearchQuery

namespace Leaf

/-- The leaf counted as a condition. Nothing is none. -/
def count (leaf : Leaf) : Nat := if leaf.isNothing then 0 else 1

/-- The number of values that an exact leaf asks for. -/
def valueCount : Leaf → Nat
  | .term _ => 1
  | .valueSet set => set.values.length
  | _ => 0

end Leaf

namespace Node

/-- The number of leaves of a tree that state a condition. -/
def leafCount (node : Node) : Nat := node.total Leaf.count

/-- The number of values that the terms and the sets of values of a tree ask
for. -/
def valueCount (node : Node) : Nat := node.total Leaf.valueCount

end Node

section Measured

variable {measure : Leaf → Nat} {limit : Nat}

theorem StaysWithin.leaf {leaf : Leaf} (within : measure leaf ≤ limit) :
    StaysWithin (Node.total measure) limit (.ok (.leaf leaf)) :=
  .ok ((Node.total_leaf leaf).trans_le within)

/-- Two leaves side by side stay within what they measure together. -/
theorem StaysWithin.apart
    {left right : Leaf}
    (operation : MergeOperation)
    (nothing : measure .nothing = 0)
    (within : measure left + measure right ≤ limit) :
    StaysWithin (Node.total measure) limit
      (.ok (operation.apart (.leaf left) (.leaf right))) := by
  have total := Clauses.total_apart nothing operation (.leaf left) (.leaf right)
  rw [Node.total_leaf, Node.total_leaf] at total
  exact .ok (total.trans_le within)

end Measured

namespace Leaf

theorem count_le_one (leaf : Leaf) : leaf.count ≤ 1 := by
  unfold count
  split
  · exact Nat.zero_le 1
  · exact Nat.le_refl 1

theorem count_eq_one {leaf : Leaf} (notTrivial : leaf.isTrivial = false) :
    leaf.count = 1 := by
  cases leaf with
  | nothing => cases notTrivial
  | _ => rfl

/-- A measure of which merges of leaves with one key make no more is thrifty:
other leaves stay side by side, or one of them stands for both. -/
theorem IsThrifty.of_mergeAtKey
    {measure : Leaf → Nat}
    (nothing : measure .nothing = 0)
    (atKey : ∀ operation a b, a.isTrivial = false → b.isTrivial = false →
      StaysWithin (Node.total measure) (measure a + measure b)
        (mergeAtKey operation a b)) :
    IsThrifty measure where
  nothing := nothing
  merge operation a b := by
    cases merging operation a b with
    | left merges => exact merges ▸ .leaf (Nat.le_add_right _ _)
    | right merges => exact merges ▸ .leaf (Nat.le_add_left _ _)
    | apart merges => exact merges ▸ .apart operation nothing (Nat.le_refl _)
    | atKey merges sameKey differ notTrivial =>
        obtain ⟨notTrivialA, notTrivialB⟩ := Bool.or_eq_false_iff.mp notTrivial
        exact merges ▸ atKey operation a b notTrivialA notTrivialB

/-- No merge of leaves makes more conditions. -/
theorem isThrifty_count : IsThrifty count := by
  refine .of_mergeAtKey rfl fun operation a b notTrivialA notTrivialB => ?_
  rw [count_eq_one notTrivialA, count_eq_one notTrivialB]
  have outcome := outcome_mergeAtKey operation a b
  generalize mergeAtKey operation a b = merged at outcome
  cases outcome with
  | @single result recast =>
      exact .leaf ((count_le_one result).trans (by decide))
  | @apart left right recastLeft recastRight =>
      exact .apart operation
        rfl (Nat.add_le_add (count_le_one left) (count_le_one right))
  | weights | kinds | pattern | exclusion => exact .error _

end Leaf

/-! ## Values -/

namespace ValueSet

/-- The smallest leaf for some values asks for no more of them. -/
theorem valueCount_leaf_le (set : ValueSet) :
    set.leaf.valueCount ≤ set.values.length := by
  unfold leaf
  split
  · exact Nat.zero_le _
  · rename_i single
    rw [single]
    exact Nat.le_refl 1
  · exact Nat.le_refl _

theorem valueCount_ofValues_le (scope : Scope) (values : List Value) :
    (ofValues scope values).leaf.valueCount ≤ values.length :=
  (valueCount_leaf_le _).trans (length_arrange_le scope values)

end ValueSet

section Rules

open Leaf (valueCount)

namespace Term

variable (a b : Term)

theorem staysWithin_union :
    StaysWithin (Node.total valueCount) (1 + 1) (a.union b) := by
  refine .agreed (.leaf ?_)
  split
  · exact Nat.le_succ 1
  · exact ValueSet.valueCount_ofValues_le _ _

/-- The intersection of terms asks for two values at most. -/
theorem staysWithin_inter :
    StaysWithin (Node.total valueCount) (1 + 1) (a.inter b) := by
  unfold Term.inter
  split
  · exact .agreed (.leaf (Nat.le_succ 1))
  · split
    · exact .apart .inter rfl (Nat.le_refl _)
    · exact .error _

end Term

namespace ValueSet

variable (a b set : ValueSet) (term : Term)

theorem staysWithin_union :
    StaysWithin (Node.total valueCount) (a.values.length + b.values.length)
      (a.union b) := by
  refine .agreed (.leaf ?_)
  rw [← List.length_append]
  exact valueCount_ofValues_le _ _

theorem staysWithin_unionTerm :
    StaysWithin (Node.total valueCount) (set.values.length + 1)
      (set.unionTerm term) := by
  refine .agreed (.leaf ?_)
  split
  · exact (valueCount_leaf_le set).trans (Nat.le_succ _)
  · exact (valueCount_ofValues_le _ _).trans_eq List.length_append

/-- The intersection of value sets asks for no more values than both. -/
theorem staysWithin_inter :
    StaysWithin (Node.total valueCount) (a.values.length + b.values.length)
      (a.inter b) := by
  unfold ValueSet.inter
  split
  · split
    · exact .agreed
        (.leaf ((valueCount_leaf_le a).trans (Nat.le_add_right _ _)))
    · split
      · exact .agreed
          (.leaf ((valueCount_leaf_le b).trans (Nat.le_add_left _ _)))
      · exact .apart .inter rfl (Nat.le_refl _)
  · dsimp only
    split
    · exact .error _
    · refine .agreed (.leaf ((valueCount_ofValues_le _ _).trans ?_))
      exact (List.length_filter_le _ _).trans (Nat.le_add_right _ _)

/-- The intersection of a value set and a term asks for no more values than
both. -/
theorem staysWithin_interTerm :
    StaysWithin (Node.total valueCount) (set.values.length + 1)
      (set.interTerm term) := by
  unfold interTerm
  split
  · exact .agreed (.leaf (Nat.le_add_left 1 _))
  · split
    · exact .apart .inter rfl (Nat.le_refl _)
    · exact .error _

end ValueSet

namespace IdSet

theorem staysWithin_union (a b : IdSet) :
    StaysWithin (Node.total valueCount) 0 (a.union b) :=
  .agreed (.leaf (Nat.le_refl 0))

theorem staysWithin_inter (a b : IdSet) :
    StaysWithin (Node.total valueCount) 0 (a.inter b) := by
  unfold IdSet.inter
  dsimp only
  split
  · exact .error _
  · exact .agreed (.leaf (Nat.le_refl 0))

end IdSet

namespace Range

variable (a b range : Range) (term : Term) (set : ValueSet)

theorem staysWithin_union :
    StaysWithin (Node.total valueCount) 0 (a.union b) := by
  unfold Range.union
  split
  · exact .agreed (.leaf (Nat.le_refl 0))
  · exact .apart .union rfl (Nat.le_refl 0)

/-- The intersection of ranges asks for no value. -/
theorem staysWithin_inter :
    StaysWithin (Node.total valueCount) 0 (a.inter b) := by
  have together : StaysWithin (Node.total valueCount) 0
      (.ok (.both (.leaf (.range a)) (.leaf (.range b)))) :=
        .apart .inter rfl (Nat.le_refl 0)
  unfold Range.inter
  dsimp only
  split
  · exact together
  · split
    · split
      · exact .agreed (.leaf (Nat.le_refl 0))
      · split
        · exact .agreed (.leaf (Nat.le_refl 0))
        · exact together
    · split
      · exact .agreed (.leaf (Nat.le_refl 0))
      · exact .error _

theorem staysWithin_unionTerm :
    StaysWithin (Node.total valueCount) 1 (range.unionTerm term) := by
  unfold unionTerm
  split
  · exact .agreed (.leaf (Nat.zero_le 1))
  · exact .apart .union rfl (Nat.le_refl 1)

theorem staysWithin_interTerm :
    StaysWithin (Node.total valueCount) 1 (range.interTerm term) := by
  unfold interTerm
  split
  · exact .agreed (.leaf (Nat.le_refl 1))
  · exact .apart .inter rfl (Nat.le_refl 1)

/-- The union of a range and a value set asks for no more values than the
set. -/
theorem staysWithin_unionValues :
    StaysWithin (Node.total valueCount) set.values.length
      (range.unionValues set) := by
  have outsideLength := (takeInAll_sublist range set.values).length_le
  unfold unionValues
  generalize range.takeInAll set.values = taken at outsideLength
  obtain ⟨wider, outside⟩ := taken
  dsimp only at outsideLength ⊢
  split
  · refine .apart .union rfl ?_
    exact (Nat.zero_add _).le
  · refine .agreed ?_
    have remaining :=
      (ValueSet.valueCount_ofValues_le set.toScope outside).trans outsideLength
    split
    · exact .leaf (Nat.zero_le _)
    · exact .apart .union rfl ((Nat.zero_add _).trans_le remaining)

/-- The intersection of a range and a value set asks for no more values than the
set. -/
theorem staysWithin_interValues :
    StaysWithin (Node.total valueCount) set.values.length
      (range.interValues set) := by
  have inside : StaysWithin (Node.total valueCount) set.values.length
      (.ok (.leaf
        (ValueSet.ofValues set.toScope
          (set.values.filter range.includes)).leaf)) :=
    .leaf
      ((ValueSet.valueCount_ofValues_le _ _).trans (List.length_filter_le _ _))
  have together : StaysWithin (Node.total valueCount) set.values.length
      (.ok (.both (.leaf (.range range)) (.leaf (.valueSet set)))) := by
    refine .apart .inter rfl ?_
    exact (Nat.zero_add _).le
  unfold interValues
  dsimp only
  generalize (if range.type.isArray then _ else _ : Bool) = collapses
  split
  · exact .agreed inside
  · exact together

end Range

namespace Pattern

variable (pattern : Pattern) {leaf : Leaf} {scope : Scope} {values : List Value}
  (exact : leaf.exactValues? = some (scope, values))
include exact

omit pattern in
theorem valueCount_of_exactValues? : leaf.valueCount = values.length := by
  cases leaf <;> cases exact <;> rfl

/-- The union of a pattern and an exact leaf asks for no more values than the
leaf. -/
theorem staysWithin_union :
    StaysWithin (Node.total valueCount) leaf.valueCount
      (pattern.union leaf) := by
  have together : StaysWithin (Node.total valueCount) leaf.valueCount
      (.ok (.either (.leaf (.pattern pattern)) (.leaf leaf))) :=
    .apart .union rfl (Nat.zero_add _).le
  rw [Pattern.union, split?_eq exact]
  split
  · cases pattern.matcher.predicate with
    | error error => exact .error error
    | ok holds =>
        change StaysWithin _ _ (pattern.unionSplit leaf _)
        unfold unionSplit
        dsimp only
        split
        · exact together
        · refine .agreed ?_
          split
          · exact .leaf (Nat.zero_le _)
          · refine .apart .union rfl ?_
            rw [valueCount_of_exactValues? exact]
            refine (Nat.zero_add _).trans_le
              ((ValueSet.valueCount_ofValues_le _ _).trans ?_)
            exact List.length_filter_le _ _
  · exact together

/-- The intersection of a pattern and an exact leaf asks for no more values than
the leaf. -/
theorem staysWithin_inter :
    StaysWithin (Node.total valueCount) leaf.valueCount
      (pattern.inter leaf) := by
  have together : StaysWithin (Node.total valueCount) leaf.valueCount
      (.ok (.both (.leaf (.pattern pattern)) (.leaf leaf))) :=
    .apart .inter rfl (Nat.zero_add _).le
  rw [Pattern.inter, split?_eq exact]
  split
  · cases pattern.matcher.predicate with
    | error error => exact .error error
    | ok holds =>
        have inside : StaysWithin (Node.total valueCount) leaf.valueCount
            (.ok (.leaf
              (ValueSet.ofValues scope
                (values.filter (holdsOf holds))).leaf)) := by
          refine .leaf ?_
          rw [valueCount_of_exactValues? exact]
          exact (ValueSet.valueCount_ofValues_le _ _).trans
            (List.length_filter_le _ _)
        change StaysWithin _ _ (pattern.interSplit leaf _)
        unfold interSplit
        dsimp only
        generalize (if pattern.type.isArray then _ else _ : Bool) = collapses
        split
        · exact .agreed inside
        · exact together
  · exact together

end Pattern

end Rules

namespace Leaf

variable (a b : Leaf)

theorem staysWithin_mergeSame (operation : MergeOperation) :
    StaysWithin (Node.total valueCount) (a.valueCount + b.valueCount)
      (mergeSame operation.apart a b) := by
  unfold mergeSame
  split
  · exact .agreed (.leaf (Nat.le_add_right _ _))
  · exact .apart operation rfl (Nat.le_refl _)

/-- The union of leaves with one key asks for no more values than both. -/
theorem staysWithin_unionAtKey :
    StaysWithin (Node.total valueCount) (a.valueCount + b.valueCount)
      (unionAtKey a b) := by
  unfold unionAtKey
  split
  · exact .leaf (Nat.zero_le _)
  · exact .leaf (Nat.zero_le _)
  · exact IdSet.staysWithin_union _ _
  · exact .error _
  · exact .error _
  · exact Term.staysWithin_union _ _
  · exact ValueSet.staysWithin_unionTerm _ _
  · exact (ValueSet.staysWithin_unionTerm _ _).mono (Nat.add_comm _ _).le
  · exact ValueSet.staysWithin_union _ _
  · exact Range.staysWithin_union _ _
  · exact (Range.staysWithin_unionTerm _ _).mono (Nat.le_add_left _ _)
  · exact (Range.staysWithin_unionTerm _ _).mono (Nat.le_add_right _ _)
  · exact (Range.staysWithin_unionValues _ _).mono (Nat.le_add_left _ _)
  · exact (Range.staysWithin_unionValues _ _).mono (Nat.le_add_right _ _)
  · exact (Pattern.staysWithin_union _ rfl).mono (Nat.le_add_left _ _)
  · exact (Pattern.staysWithin_union _ rfl).mono (Nat.le_add_left _ _)
  · exact (Pattern.staysWithin_union _ rfl).mono (Nat.le_add_right _ _)
  · exact (Pattern.staysWithin_union _ rfl).mono (Nat.le_add_right _ _)
  · exact staysWithin_mergeSame _ _ .union

/-- The intersection of leaves with one key asks for no more values than
both. -/
theorem staysWithin_interAtKey :
    StaysWithin (Node.total valueCount) (a.valueCount + b.valueCount)
      (interAtKey a b) := by
  unfold interAtKey
  split
  · exact .leaf (Nat.le_add_left _ _)
  · exact .leaf (Nat.le_add_right _ _)
  · exact IdSet.staysWithin_inter _ _
  · exact .error _
  · exact .error _
  · exact Term.staysWithin_inter _ _
  · exact ValueSet.staysWithin_interTerm _ _
  · exact (ValueSet.staysWithin_interTerm _ _).mono (Nat.add_comm _ _).le
  · exact ValueSet.staysWithin_inter _ _
  · exact Range.staysWithin_inter _ _
  · exact (Range.staysWithin_interTerm _ _).mono (Nat.le_add_left _ _)
  · exact (Range.staysWithin_interTerm _ _).mono (Nat.le_add_right _ _)
  · exact (Range.staysWithin_interValues _ _).mono (Nat.le_add_left _ _)
  · exact (Range.staysWithin_interValues _ _).mono (Nat.le_add_right _ _)
  · exact (Pattern.staysWithin_inter _ rfl).mono (Nat.le_add_left _ _)
  · exact (Pattern.staysWithin_inter _ rfl).mono (Nat.le_add_left _ _)
  · exact (Pattern.staysWithin_inter _ rfl).mono (Nat.le_add_right _ _)
  · exact (Pattern.staysWithin_inter _ rfl).mono (Nat.le_add_right _ _)
  · exact staysWithin_mergeSame _ _ .inter

theorem isThrifty_valueCount : IsThrifty valueCount := by
  refine .of_mergeAtKey rfl fun operation a b _ _ => ?_
  cases operation with
  | union => exact staysWithin_unionAtKey a b
  | inter => exact staysWithin_interAtKey a b

end Leaf

namespace Node

/-- A merge of two trees of any shape has at most as many leaves as both
together, where nothing does not count, and its terms and sets of values ask for
at most as many values. -/
theorem counts_merge_le
    (operation : MergeOperation)
    (a b merged : Node)
    (success : merge operation a b = .ok merged) :
    merged.leafCount ≤ a.leafCount + b.leafCount ∧
      merged.valueCount ≤ a.valueCount + b.valueCount :=
  ⟨staysWithin_merge Leaf.isThrifty_count operation a b merged success,
    staysWithin_merge Leaf.isThrifty_valueCount operation a b merged success⟩

/-- Of three conditions two are left when a range among alternatives takes in a
size at its end, and then no term asks for a value. -/
theorem counts_merge_le_size :
    (either
      (.leaf
        (.range ⟨.ofSize, some ⟨.gt, .int 1⟩, some ⟨.lte, .int 3⟩, none, none⟩))
          (.leaf (.presence ⟨"color", false⟩))).leafCount ≤
        (either (.leaf (.sizeBetween 1 3))
          (.leaf (.presence ⟨"color", false⟩))).leafCount +
          (Node.leaf (.sizeIs 3)).leafCount ∧
      (either
        (.leaf
          (.range ⟨.ofSize, some ⟨.gt, .int 1⟩, some ⟨.lte, .int 3⟩,
            none, none⟩))
          (.leaf (.presence ⟨"color", false⟩))).valueCount ≤
        (either (.leaf (.sizeBetween 1 3))
          (.leaf (.presence ⟨"color", false⟩))).valueCount +
          (Node.leaf (.sizeIs 3)).valueCount := by
  refine counts_merge_le .union _ _ _ ?_
  with_unfolding_all rfl

end Node
end SearchQuery
