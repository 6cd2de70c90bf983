import SearchQuery.Proofs.ExactMerges

/-!
# Merges of patterns are right

A pattern about whole values asks for the values whose text it describes. Union
takes described values in, and intersection keeps them alone, on an array field
only if all of them are described.
-/

namespace SearchQuery

open MergeOperation

variable {discipline : Discipline}

/-- The values that an exact leaf lists are of the kind of its field, and the
leaf asks for them. -/
theorem Leaf.lists_and_asks_of_exactValues?
    {leaf : Leaf}
    {scope : Scope}
    {values : List Value}
    (keeps : leaf.Keeps discipline)
    (exact : leaf.exactValues? = some (scope, values)) :
    scope.Lists discipline.types values ∧
      leaf.Asks discipline scope.field (scope.meets values) := by
  cases leaf with
  | term content =>
      cases exact
      exact ⟨Term.Keeps.lists keeps, Term.asks_term keeps⟩
  | valueSet content =>
      cases exact
      exact ⟨ValueSet.Keeps.lists keeps, ValueSet.asks_valueSet keeps⟩
  | _ => cases exact

namespace Pattern

variable {pattern : Pattern} {leaf : Leaf}

theorem accepts_eq_holdsOf
    {holds : String → Bool}
    (meaning : pattern.matcher.predicate = .ok holds) :
    pattern.accepts = holdsOf holds := by
  funext value
  simp only [accepts, holdsOf, Matcher.accepts, meaning]
  rfl

/-- A pattern about whole values describes equal values alike. -/
theorem respects_holdsOf (onValues : pattern.isOnValues = true)
    (holds : String → Bool) :
    Value.Respects pattern.type.fieldType (holdsOf holds) := by
  intro a b isA isB same
  have family := (Bool.and_eq_true _ _ ▸ onValues).1
  revert isA isB same family
  cases pattern.type.fieldType <;> intro isA isB same family <;>
    try cases family
  all_goals
    cases a <;> cases isA
    cases b <;> cases isB
    rename_i textA textB
    have equal : textA = textB :=
      Std.LawfulEqOrd.eq_of_compare (beq_iff_eq.mp same)
    rw [equal]

theorem asks_pattern
    (typed : pattern.type = discipline.types pattern.field)
    (onValues : pattern.isOnValues = true) :
    (Leaf.pattern pattern).Asks discipline pattern.field pattern.accepts where
  formed := .leaf rfl typed
  holds engine document _ := by
    rw [Node.holds_leaf, Leaf.holds, if_pos onValues]

/-- The split of an exact leaf sorts its values by a pattern about whole
values. -/
theorem split?_eq
    {scope : Scope}
    {values : List Value}
    (exact : leaf.exactValues? = some (scope, values)) :
    pattern.split? leaf =
      if pattern.isOnValues then
        pattern.matcher.predicate.map fun holds =>
          some ⟨scope, values.filter (holdsOf holds),
            values.filter fun value => !holdsOf holds value⟩
      else .ok none := by
  rw [split?, exact]
  cases pattern.isOnValues <;> rfl

/-- A matcher without a meaning is refused, which is no exclusion. -/
theorem isExclusion_of_predicate_error
    {matcher : Matcher}
    {error : Error}
    (refused : matcher.predicate = .error error) :
    error.isExclusion = false := by
  have expressionRefused : ∀ refusal, matcher.expression = .error refusal →
      refusal.isExclusion = false := by
    intro refusal equation
    unfold Matcher.expression at equation
    split at equation
    · cases equation
    · cases equation
      rfl
  have mapRefused : ∀ make : Regex → String → Bool,
      matcher.expression.map make = .error error →
        error.isExclusion = false := by
    intro make equation
    cases meaning : matcher.expression with
    | ok expression =>
        rw [meaning] at equation
        cases equation
    | error refusal =>
        rw [meaning] at equation
        cases equation
        exact expressionRefused _ meaning
  unfold Matcher.predicate at refused
  split at refused
  · cases refused
  · split at refused
    · exact mapRefused _ refused
    · cases refused
  · exact mapRefused _ refused
  · cases refused

section Exact

variable {scope : Scope} {values : List Value}
  (typed : pattern.type = discipline.types pattern.field)
  (keeps : leaf.Keeps discipline)
  (exact : leaf.exactValues? = some (scope, values))
  (sameField : pattern.field = scope.field)
include typed keeps exact sameField

theorem respects_of_exact (onValues : pattern.isOnValues = true)
    (holds : String → Bool) :
    Value.Respects scope.type.fieldType (holdsOf holds) := by
  have lists := (Leaf.lists_and_asks_of_exactValues? keeps exact).1
  rw [lists.typed, ← sameField, ← typed]
  exact respects_holdsOf onValues holds

/-- The union with split values is right. -/
theorem merges_unionSplit
    (onValues : pattern.isOnValues = true)
    {holds : String → Bool}
    (meaning : pattern.matcher.predicate = .ok holds) :
    MergeOperation.union.Merges discipline (.leaf (.pattern pattern))
      (.leaf leaf)
      (pattern.unionSplit leaf ⟨scope, values.filter (holdsOf holds),
        values.filter fun value => !holdsOf holds value⟩) := by
  obtain ⟨lists, asksLeaf⟩ := Leaf.lists_and_asks_of_exactValues? keeps exact
  have asks := asks_pattern typed onValues
  rw [accepts_eq_holdsOf meaning, sameField] at asks
  have respects := respects_of_exact typed keeps exact sameField onValues holds
  have others : ∀ value,
      value.isOf (discipline.types scope.field).fieldType = true →
      scope.meets (values.filter fun value => !holdsOf holds value) value =
        (scope.meets values value && !holdsOf holds value) := by
    intro value isValue
    rw [← lists.typed] at isValue
    exact Scope.meets_filter lists.kinds respects.not isValue
  have covers : ∀ value,
      value.isOf (discipline.types scope.field).fieldType = true →
      (holdsOf holds value ||
        scope.meets (values.filter fun value => !holdsOf holds value) value) =
        (holdsOf holds value || scope.meets values value) := by
    intro value isValue
    rw [others value isValue]
    cases holdsOf holds value <;> simp
  unfold unionSplit
  dsimp only
  split
  · exact .either asks.formed asksLeaf.formed
  · refine .agreed fun _ => ?_
    split
    · rename_i empty
      rw [List.isEmpty_iff.mp empty] at covers
      apply asks.isJoin_union asks asksLeaf
      intro value isValue
      rw [← covers value isValue]
      exact (Bool.or_false _).symm
    · rename_i nonempty
      have isThere : (values.filter fun value => !holdsOf holds value) ≠ [] :=
        fun empty => nonempty (List.isEmpty_iff.mpr empty)
      have asksOthers :=
        (lists.of_subset isThere (List.filter_subset_self _)).asks_ofValues
      exact asks.isJoin_either asksOthers asks asksLeaf covers

/-- The intersection with split values is right. -/
theorem merges_interSplit
    (onValues : pattern.isOnValues = true)
    {holds : String → Bool}
    (meaning : pattern.matcher.predicate = .ok holds) :
    MergeOperation.inter.Merges discipline (.leaf (.pattern pattern))
      (.leaf leaf)
      (pattern.interSplit leaf ⟨scope, values.filter (holdsOf holds),
        values.filter fun value => !holdsOf holds value⟩) := by
  obtain ⟨lists, asksLeaf⟩ := Leaf.lists_and_asks_of_exactValues? keeps exact
  have asks := asks_pattern typed onValues
  rw [accepts_eq_holdsOf meaning, sameField] at asks
  have respects := respects_of_exact typed keeps exact sameField onValues holds
  have sameType : scope.type = pattern.type := by
    rw [lists.typed, typed, sameField]
  unfold interSplit
  dsimp only
  cases array : pattern.type.isArray with
  | true =>
      rw [if_pos rfl]
      split
      · rename_i noneLeft
        have complete : ∀ value ∈ values, holdsOf holds value = true := by
          intro value isValue
          have none :=
            List.filter_eq_nil_iff.mp (List.isEmpty_iff.mp noneLeft)
              value isValue
          simpa using none
        have nonempty : values.filter (holdsOf holds) ≠ [] := by
          rw [List.filter_eq_self.mpr complete]
          exact lists.nonempty
        exact .agreed fun _ =>
          lists.isJoin_filter asks asksLeaf respects nonempty fun _ => complete
      · exact .both asks.formed asksLeaf.formed
  | false =>
      rw [if_neg Bool.false_ne_true]
      split
      · rename_i some
        have nonempty : values.filter (holdsOf holds) ≠ [] := by
          simpa using some
        refine .agreed fun _ =>
          lists.isJoin_filter asks asksLeaf respects nonempty fun isArray => ?_
        rw [sameType, array] at isArray
        cases isArray
      · exact .both asks.formed asksLeaf.formed

/-- The union of a pattern and an exact leaf is right. -/
theorem merges_union :
    MergeOperation.union.Merges discipline (.leaf (.pattern pattern))
      (.leaf leaf)
      (pattern.union leaf) := by
  have asksLeaf := (Leaf.lists_and_asks_of_exactValues? keeps exact).2
  rw [Pattern.union, split?_eq exact]
  split
  · rename_i onValues
    cases meaning : pattern.matcher.predicate with
    | error error =>
        intro exclusion
        rw [isExclusion_of_predicate_error meaning] at exclusion
        cases exclusion
    | ok holds =>
        exact merges_unionSplit typed keeps exact sameField onValues meaning
  · exact .either (.leaf rfl typed) asksLeaf.formed

/-- The intersection of a pattern and an exact leaf is right. -/
theorem merges_inter :
    MergeOperation.inter.Merges discipline (.leaf (.pattern pattern))
      (.leaf leaf)
      (pattern.inter leaf) := by
  have asksLeaf := (Leaf.lists_and_asks_of_exactValues? keeps exact).2
  rw [Pattern.inter, split?_eq exact]
  split
  · rename_i onValues
    cases meaning : pattern.matcher.predicate with
    | error error =>
        intro exclusion
        rw [isExclusion_of_predicate_error meaning] at exclusion
        cases exclusion
    | ok holds =>
        exact merges_interSplit typed keeps exact sameField onValues meaning
  · exact .both (.leaf rfl typed) asksLeaf.formed

end Exact

end Pattern
end SearchQuery
