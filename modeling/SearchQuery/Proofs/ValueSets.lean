import Mathlib.Data.List.Basic
import Mathlib.Data.List.Perm.Basic
import SearchQuery.Leaf.ValueSet
import SearchQuery.Proofs.ValueOrder

/-!
# Value sets are sets

Arranging values sorts them and keeps one of each class of equal values, and the
search by halving finds a member of such a set wherever there is one.
-/

namespace SearchQuery

/-- Some of the values equals the given one. -/
def Scope.meets (scope : Scope) (values : List Value) (value : Value) : Bool :=
  values.any fun member => scope.equal member value

namespace ValueSet

/-- The values of a set as it is stored: of the kind of the field, and in
increasing order without repetition. -/
structure IsArranged (scope : Scope) (values : List Value) : Prop where
  kinds : ∀ value ∈ values, value.isOf scope.type.fieldType = true
  increasing : values.Pairwise fun a b => scope.order a b = .lt

section Arranging

variable {scope : Scope} (ranking : Ranking scope.type.fieldType)

/-- Values are in increasing order where their places are. -/
theorem pairwise_order_iff
    {values : List Value}
    (kinds : ∀ value ∈ values, value.isOf scope.type.fieldType = true) :
    (values.Pairwise fun a b => scope.order a b = .lt) ↔
      values.Pairwise fun a b => ranking.place a < ranking.place b := by
  apply List.Pairwise.iff_of_mem
  intro a b isA isB
  exact ranking.order_eq_lt_iff (kinds a isA) (kinds b isB)

/-- Inserting a value adds it to the values. -/
theorem insertDescending_perm (scope : Scope) (value : Value)
    (sorted : List Value) :
    (insertDescending scope value sorted).Perm (value :: sorted) := by
  induction sorted with
  | nil => exact .refl _
  | cons greatest rest hypothesis =>
      rw [insertDescending]
      split
      · exact (hypothesis.cons greatest).trans (.swap value greatest rest)
      · exact .refl _

/-- Inserting a value keeps the values in decreasing order. -/
theorem insertDescending_descending
    {value : Value}
    {sorted : List Value}
    (isValue : value.isOf scope.type.fieldType = true)
    (kinds : ∀ member ∈ sorted, member.isOf scope.type.fieldType = true)
    (descends : sorted.Pairwise fun a b => ranking.place b ≤ ranking.place a) :
    (insertDescending scope value sorted).Pairwise
      fun a b => ranking.place b ≤ ranking.place a := by
  induction sorted with
  | nil => exact List.pairwise_singleton _ _
  | cons greatest rest hypothesis =>
      have isGreatest := kinds greatest List.mem_cons_self
      rw [List.pairwise_cons] at descends
      have lower := ranking.order_eq_lt_iff isValue isGreatest
      rw [insertDescending]
      split
      · rename_i below
        refine List.pairwise_cons.mpr ⟨?_, ?_⟩
        · intro member isMember
          rw [(insertDescending_perm scope value rest).mem_iff, List.mem_cons]
            at isMember
          obtain rfl | isMember := isMember
          · exact le_of_lt (lower.mp below)
          · exact descends.1 member isMember
        · exact hypothesis
            (fun member isMember =>
              kinds member (List.mem_cons_of_mem _ isMember))
            descends.2
      · rename_i notLower
        have atMost := not_lt.mp (mt lower.mpr notLower)
        refine List.pairwise_cons.mpr ⟨?_, List.pairwise_cons.mpr descends⟩
        intro member isMember
        rw [List.mem_cons] at isMember
        obtain rfl | isMember := isMember
        · exact atMost
        · exact le_trans (descends.1 member isMember) atMost

/-- Inserting values one after the other adds them all. -/
theorem foldl_insertDescending_perm (scope : Scope)
    (values sorted : List Value) :
    (values.foldl (fun sorted value => insertDescending scope value sorted)
      sorted).Perm
      (values ++ sorted) := by
  induction values generalizing sorted with
  | nil => exact .refl _
  | cons value rest hypothesis =>
      have inserted := insertDescending_perm scope value sorted
      exact (hypothesis _).trans
        ((inserted.append_left rest).trans List.perm_middle)

/-- Inserting values one after the other keeps the decreasing order. -/
theorem foldl_insertDescending_descending
    (values sorted : List Value)
    (kinds : ∀ value ∈ values ++ sorted, value.isOf scope.type.fieldType = true)
    (descends : sorted.Pairwise fun a b => ranking.place b ≤ ranking.place a) :
    (values.foldl (fun sorted value => insertDescending scope value sorted)
      sorted).Pairwise
      fun a b => ranking.place b ≤ ranking.place a := by
  induction values generalizing sorted with
  | nil => exact descends
  | cons value rest hypothesis =>
      have inserted := insertDescending_perm scope value sorted
      refine hypothesis (insertDescending scope value sorted) ?_ ?_
      · intro member isMember
        have permuted := (inserted.append_left rest).trans List.perm_middle
        exact kinds member (permuted.mem_iff.mp isMember)
      · refine insertDescending_descending ranking (kinds value (by simp))
          ?_ descends
        intro member isMember
        exact kinds member (List.mem_append_right _ isMember)

theorem descending_reverse_perm (scope : Scope) (values : List Value) :
    (descending scope values).reverse.Perm values := by
  have permuted := foldl_insertDescending_perm scope values []
  rw [List.append_nil] at permuted
  exact (List.reverse_perm _).trans permuted

/-- Read backwards, sorted values are in increasing order. -/
theorem descending_reverse_ascending
    (values : List Value)
    (kinds : ∀ value ∈ values, value.isOf scope.type.fieldType = true) :
    (descending scope values).reverse.Pairwise
      fun a b => ranking.place a ≤ ranking.place b := by
  rw [List.pairwise_reverse]
  refine foldl_insertDescending_descending ranking values [] ?_ .nil
  rw [List.append_nil]
  exact kinds

/-- Dropping repetitions only drops values. -/
theorem dropRepeatedAfter_sublist (previous : Value) (values : List Value) :
    (dropRepeatedAfter scope previous values).Sublist values := by
  induction values generalizing previous with
  | nil => exact .slnil
  | cons value rest hypothesis =>
      rw [dropRepeatedAfter]
      split
      · exact (hypothesis previous).cons value
      · exact (hypothesis value).cons_cons value

/-- Arranging values only drops values from their increasing order. -/
theorem arrange_sublist (scope : Scope) (values : List Value) :
    (arrange scope values).Sublist (descending scope values).reverse := by
  unfold arrange
  cases (descending scope values).reverse with
  | nil => exact .slnil
  | cons first rest =>
      exact (dropRepeatedAfter_sublist first rest).cons_cons first

/-- After repetitions are dropped from values in order, each value is strictly
after the ones before it. -/
theorem dropRepeatedAfter_increasing
    (previous : Value)
    (values : List Value)
    (kinds : ∀ value ∈ previous :: values,
      value.isOf scope.type.fieldType = true)
    (ascends : (previous :: values).Pairwise fun a b =>
      ranking.place a ≤ ranking.place b) :
    (previous :: dropRepeatedAfter scope previous values).Pairwise
      fun a b => ranking.place a < ranking.place b := by
  induction values generalizing previous with
  | nil => exact List.pairwise_singleton _ _
  | cons value rest hypothesis =>
      rw [List.forall_mem_cons, List.forall_mem_cons] at kinds
      obtain ⟨isPrevious, isValue, isRest⟩ := kinds
      obtain ⟨fromPrevious, ascendsRest⟩ := List.pairwise_cons.mp ascends
      rw [List.forall_mem_cons] at fromPrevious
      obtain ⟨previousLe, fromPrevious⟩ := fromPrevious
      have repeated := ranking.equal_iff isValue isPrevious
      rw [dropRepeatedAfter]
      split
      · refine hypothesis previous
          (List.forall_mem_cons.mpr ⟨isPrevious, isRest⟩) ?_
        exact List.pairwise_cons.mpr
          ⟨fromPrevious, (List.pairwise_cons.mp ascendsRest).2⟩
      · rename_i differs
        have previousLt :=
          lt_of_le_of_ne previousLe (Ne.symm (mt repeated.mpr differs))
        have fromValue :=
          hypothesis value (List.forall_mem_cons.mpr ⟨isValue, isRest⟩)
            ascendsRest
        refine List.pairwise_cons.mpr ⟨?_, fromValue⟩
        intro member isMember
        rw [List.mem_cons] at isMember
        obtain rfl | isMember := isMember
        · exact previousLt
        · exact lt_trans previousLt
            ((List.pairwise_cons.mp fromValue).1 member isMember)

/-- A value that is dropped as a repetition has an equal that stays. -/
theorem exists_mem_dropRepeatedAfter
    (previous : Value)
    (values : List Value)
    (kinds : ∀ value ∈ previous :: values,
      value.isOf scope.type.fieldType = true)
    {value : Value}
    (isMember : value ∈ values) :
    ∃ member ∈ previous :: dropRepeatedAfter scope previous values,
      ranking.place member = ranking.place value := by
  induction values generalizing previous with
  | nil => cases isMember
  | cons head rest hypothesis =>
      rw [List.forall_mem_cons, List.forall_mem_cons] at kinds
      obtain ⟨isPrevious, isHead, isRest⟩ := kinds
      rw [List.mem_cons] at isMember
      rw [dropRepeatedAfter]
      split
      · rename_i repeated
        obtain rfl | isMember := isMember
        · refine ⟨previous, List.mem_cons_self, ?_⟩
          exact ((ranking.equal_iff isHead isPrevious).mp repeated).symm
        · exact hypothesis previous
            (List.forall_mem_cons.mpr ⟨isPrevious, isRest⟩) isMember
      · obtain rfl | isMember := isMember
        · exact ⟨value, List.mem_cons_of_mem _ List.mem_cons_self, rfl⟩
        · obtain ⟨member, kept, same⟩ :=
            hypothesis head (List.forall_mem_cons.mpr ⟨isHead, isRest⟩) isMember
          exact ⟨member, List.mem_cons_of_mem _ kept, same⟩

theorem arrange_subset (values : List Value) : arrange scope values ⊆ values :=
  List.Subset.trans (arrange_sublist scope values).subset
    (descending_reverse_perm scope values).subset

theorem length_arrange_le (scope : Scope) (values : List Value) :
    (arrange scope values).length ≤ values.length :=
  (arrange_sublist scope values).length_le.trans_eq
    (descending_reverse_perm scope values).length_eq

/-- Arranged values are in increasing order without repetition. -/
theorem isArranged_arrange
    {values : List Value}
    (kinds : ∀ value ∈ values, value.isOf scope.type.fieldType = true) :
    IsArranged scope (arrange scope values) := by
  obtain ⟨ranking⟩ := exists_ranking scope.type.fieldType
  have kindsArranged : ∀ value ∈ arrange scope values,
      value.isOf scope.type.fieldType = true :=
    fun value isMember => kinds value (arrange_subset values isMember)
  refine ⟨kindsArranged, (pairwise_order_iff ranking kindsArranged).mpr ?_⟩
  have ascends := descending_reverse_ascending ranking values kinds
  have sorted := (descending_reverse_perm scope values).subset
  unfold arrange
  cases equation : (descending scope values).reverse with
  | nil => exact .nil
  | cons first rest =>
      rw [equation] at ascends sorted
      exact dropRepeatedAfter_increasing ranking first rest
        (fun value isMember => kinds value (sorted isMember)) ascends

/-- Every value has an equal among the arranged values. -/
theorem exists_mem_arrange
    {values : List Value}
    (kinds : ∀ value ∈ values, value.isOf scope.type.fieldType = true)
    {value : Value}
    (isMember : value ∈ values) :
    ∃ member ∈ arrange scope values, scope.equal member value = true := by
  obtain ⟨ranking⟩ := exists_ranking scope.type.fieldType
  have sorted := descending_reverse_perm scope values
  have found : ∃ member ∈ arrange scope values, ranking.place member =
      ranking.place value := by
    rw [← sorted.mem_iff] at isMember
    unfold arrange
    cases equation : (descending scope values).reverse with
    | nil =>
        rw [equation] at isMember
        cases isMember
    | cons first rest =>
        rw [equation] at isMember sorted
        rw [List.mem_cons] at isMember
        obtain rfl | isMember := isMember
        · exact ⟨value, List.mem_cons_self, rfl⟩
        · exact exists_mem_dropRepeatedAfter ranking first rest
            (fun member isMember =>
              kinds member (sorted.subset isMember)) isMember
  obtain ⟨member, kept, same⟩ := found
  have isKept := kinds member (arrange_subset values kept)
  have isValue := kinds value isMember
  exact ⟨member, kept, (ranking.equal_iff isKept isValue).mpr same⟩

end Arranging

section Membership

variable {scope : Scope} {values : List Value} {value : Value}

/-- Arranging values does not change which values they meet. -/
theorem meets_arrange
    (kinds : ∀ member ∈ values, member.isOf scope.type.fieldType = true)
    (isValue : value.isOf scope.type.fieldType = true) :
    scope.meets (arrange scope values) value = scope.meets values value := by
  obtain ⟨ranking⟩ := exists_ranking scope.type.fieldType
  rw [Bool.eq_iff_iff, Scope.meets, Scope.meets, List.any_eq_true,
    List.any_eq_true]
  constructor
  · rintro ⟨member, isMember, meets⟩
    exact ⟨member, arrange_subset values isMember, meets⟩
  · rintro ⟨member, isMember, meets⟩
    obtain ⟨kept, isKept, same⟩ := exists_mem_arrange kinds isMember
    have isOfKept := kinds kept (arrange_subset values isKept)
    refine ⟨kept, isKept, ?_⟩
    rw [Scope.equal, ranking.equal_iff isOfKept isValue]
    exact ((ranking.equal_iff isOfKept (kinds member isMember)).mp same).trans
      ((ranking.equal_iff (kinds member isMember) isValue).mp meets)

/-- A set contains exactly the values that its own values meet. -/
theorem contains_eq_meets
    (set : ValueSet)
    (arranged : IsArranged set.toScope set.values)
    (isValue : value.isOf set.type.fieldType = true) :
    set.contains value = set.meets set.values value := by
  obtain ⟨ranking⟩ := exists_ranking set.type.fieldType
  rw [Bool.eq_iff_iff, contains, Scope.meets, List.any_eq_true]
  constructor
  · intro contained
    obtain ⟨member, found, meets⟩ := (Option.any_eq_true _ _).mp contained
    exact ⟨member, Halving.mem_of_floorOrFirst? found, meets⟩
  · rintro ⟨target, isMember, meets⟩
    have increases :=
      (pairwise_order_iff ranking arranged.kinds).mp arranged.increasing
    have same :=
      (ranking.equal_iff (arranged.kinds target isMember) isValue).mp meets
    have isAbove : ∀ member ∈ set.values, set.order member value = .gt ↔
        ranking.place value < ranking.place member := fun member isMember =>
      ranking.order_eq_gt_iff (arranged.kinds member isMember) isValue
    rw [Halving.floorOrFirst?_of_mem increases isMember]
    · exact meets
    · rw [decide_eq_false_iff_not, isAbove target isMember, same]
      exact lt_irrefl _
    · intro member isMember less
      rw [decide_eq_false_iff_not, isAbove member isMember, ← same]
      exact lt_asymm less
    · intro member isMember less
      rwa [decide_eq_true_iff, isAbove member isMember, ← same]

end Membership

end ValueSet
end SearchQuery
