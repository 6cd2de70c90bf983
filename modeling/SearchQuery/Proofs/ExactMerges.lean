import SearchQuery.Proofs.Joins

/-!
# Merges of exact values are right

Value sets unite, and on a field that is no array they meet as sets do. On an
array field only a set inside the other is taken for both.
-/

namespace SearchQuery

/-- A test does not tell equal values of a type apart. -/
def Value.Respects (type : FieldType) (test : Value → Bool) : Prop :=
  ∀ a b, a.isOf type = true → b.isOf type = true → a.equal type b = true →
    test a = test b

theorem Value.Respects.not
    {type : FieldType}
    {test : Value → Bool}
    (respects : Respects type test) :
    Respects type fun value => !test value :=
  fun a b isA isB same => congrArg Bool.not (respects a b isA isB same)

/-- Values of the kind of a field, of which there are some. -/
structure Scope.Lists (types : String → ValueType) (scope : Scope)
    (values : List Value) :
    Prop where
  typed : scope.type = types scope.field
  nonempty : values ≠ []
  kinds : ∀ value ∈ values, value.isOf scope.type.fieldType = true

namespace Scope

variable {scope other : Scope} {values : List Value} {test : Value → Bool}
  {value : Value}

theorem meets_congr (sameType : scope.type = other.type) :
    scope.meets = other.meets := by
  funext values value
  simp only [meets, equal, sameType]

/-- Whether values are met does not tell equal values apart. -/
theorem respects_meets
    (kinds : ∀ member ∈ values, member.isOf scope.type.fieldType = true) :
    Value.Respects scope.type.fieldType (scope.meets values) := by
  intro a b isA isB same
  rw [Bool.eq_iff_iff, meets, meets, List.any_eq_true, List.any_eq_true]
  apply exists_congr
  intro member
  apply and_congr_right
  intro isMember
  rw [equal, equal,
    Value.equal_congr_right isA isB (kinds member isMember) same]

/-- The values among some that pass a test meet those that pass it. -/
theorem meets_filter
    (kinds : ∀ member ∈ values, member.isOf scope.type.fieldType = true)
    (respects : Value.Respects scope.type.fieldType test)
    (isValue : value.isOf scope.type.fieldType = true) :
    scope.meets (values.filter test) value =
      (scope.meets values value && test value) := by
  induction values with
  | nil => rfl
  | cons member rest hypothesis =>
      obtain ⟨isMember, restKinds⟩ := List.forall_mem_cons.mp kinds
      have meetsRest := hypothesis restKinds
      simp only [meets] at meetsRest ⊢
      rw [List.filter_cons, List.any_cons]
      cases same : scope.equal member value with
      | false =>
          split
          · rw [List.any_cons, same, Bool.false_or, Bool.false_or, meetsRest]
          · rw [Bool.false_or, meetsRest]
      | true =>
          have passes := respects member value isMember isValue same
          rw [passes]
          cases tested : test value with
          | true => simp [same]
          | false =>
              rw [tested, Bool.and_false] at meetsRest
              simpa using meetsRest

end Scope

namespace Scope.Lists

variable {types : String → ValueType} {scope other : Scope}
  {values others : List Value}

/-- Some of the values are values of the kind. -/
theorem of_subset
    (lists : scope.Lists types values)
    (nonempty : others ≠ [])
    (subset : others ⊆ values) :
    scope.Lists types others where
  typed := lists.typed
  nonempty := nonempty
  kinds value isValue := lists.kinds value (subset isValue)

/-- Lists of values of one field are together values of its kind. -/
theorem append
    (lists : scope.Lists types values)
    (otherLists : other.Lists types others)
    (sameField : scope.field = other.field) :
    scope.Lists types (values ++ others) where
  typed := lists.typed
  nonempty := List.append_ne_nil_of_left_ne_nil lists.nonempty others
  kinds value isValue := by
    rcases List.mem_append.mp isValue with front | back
    · exact lists.kinds value front
    · rw [lists.typed, sameField, ← otherLists.typed]
      exact otherLists.kinds value back

theorem type_eq
    (lists : scope.Lists types values)
    (otherLists : other.Lists types others)
    (sameField : scope.field = other.field) :
    scope.type = other.type := by
  rw [lists.typed, otherLists.typed, sameField]

end Scope.Lists

section Asking

variable {discipline : Discipline}

theorem ValueSet.asks_valueSet {set : ValueSet}
    (keeps : set.Keeps discipline.types) :
    (Leaf.valueSet set).Asks discipline set.field (set.meets set.values) where
  formed := .leaf rfl keeps
  holds engine document fits := by
    rw [Node.holds_leaf]
    exact Leaf.holds_valueSet keeps fits

/-- A term that keeps to the types of fields is well-formed and asks for its
value. -/
theorem Term.asks_term {term : Term} (keeps : term.Keeps discipline.types) :
    (Leaf.term term).Asks discipline term.field (term.meets [term.value]) where
  formed := .leaf rfl keeps
  holds engine document fits := by
    rw [Node.holds_leaf]
    apply fits.hasValue_congr
    intro value isValue
    rw [Scope.meets, List.any_cons, List.any_nil, Bool.or_false]
    rfl

/-- The smallest leaf for a value set asks for its values. -/
theorem ValueSet.asks_leaf {set : ValueSet}
    (keeps : set.Keeps discipline.types) :
    set.leaf.Asks discipline set.field (set.meets set.values) := by
  have nonempty := keeps.nonempty
  unfold leaf
  split
  · rename_i empty
    exact absurd empty nonempty
  · rename_i value single
    have kind :=
      keeps.arranged.kinds value (single ▸ List.mem_singleton_self value)
    have term :
        ({ toScope := set.toScope, value := value } : Term).Keeps
          discipline.types :=
      ⟨keeps.typed, kind⟩
    rw [single]
    exact Term.asks_term term
  · exact asks_valueSet keeps

/-- The smallest leaf for given values asks for them. -/
theorem Scope.Lists.asks_ofValues
    {scope : Scope}
    {values : List Value}
    (lists : scope.Lists discipline.types values) :
    (ValueSet.ofValues scope values).leaf.Asks discipline scope.field
      (scope.meets values) := by
  have keeps : (ValueSet.ofValues scope values).Keeps discipline.types := by
    refine ⟨lists.typed, ?_, ValueSet.isArranged_arrange lists.kinds⟩
    obtain ⟨value, isValue⟩ := List.exists_mem_of_ne_nil values lists.nonempty
    obtain ⟨member, isMember, _⟩ :=
      ValueSet.exists_mem_arrange lists.kinds isValue
    exact List.ne_nil_of_mem isMember
  have asks := ValueSet.asks_leaf keeps
  refine ⟨asks.formed, fun engine document fits => ?_⟩
  rw [asks.holds engine document fits]
  apply fits.hasValue_congr
  intro value isValue
  rw [← keeps.typed] at isValue
  exact ValueSet.meets_arrange lists.kinds isValue

/-- The values of a term are its value alone. -/
theorem Term.Keeps.lists {term : Term} (keeps : term.Keeps discipline.types) :
    term.Lists discipline.types [term.value] where
  typed := keeps.typed
  nonempty := List.cons_ne_nil _ _
  kinds := by
    intro value isValue
    rw [List.mem_singleton.mp isValue]
    exact keeps.kind

theorem ValueSet.Keeps.lists {set : ValueSet}
    (keeps : set.Keeps discipline.types) :
    set.Lists discipline.types set.values where
  typed := keeps.typed
  nonempty := keeps.nonempty
  kinds := keeps.arranged.kinds

end Asking

open MergeOperation

variable {discipline : Discipline}

/-- The leaf for the values of two lists on one field is the union of leaves
that ask for them. -/
theorem Scope.Lists.isJoin_append
    {scope other : Scope}
    {values others : List Value}
    {a b : Leaf}
    (lists : scope.Lists discipline.types values)
    (otherLists : other.Lists discipline.types others)
    (sameField : scope.field = other.field)
    (asksA : a.Asks discipline scope.field (scope.meets values))
    (asksB : b.Asks discipline other.field (other.meets others)) :
    (Node.leaf (ValueSet.ofValues scope (values ++ others)).leaf).IsJoin
      discipline .union
      (.leaf a) (.leaf b) := by
  rw [← sameField, ← meets_congr (lists.type_eq otherLists sameField)] at asksB
  apply (lists.append otherLists sameField).asks_ofValues.isJoin_union
    asksA asksB
  intro value _
  exact List.any_append

/-- The values that pass a test are the intersection of a leaf that asks for the
test and one that asks for the values, if all of them pass it where the field is
an array. -/
theorem Scope.Lists.isJoin_filter
    {scope : Scope}
    {values : List Value}
    {test : Value → Bool}
    {a b : Leaf}
    (lists : scope.Lists discipline.types values)
    (asksA : a.Asks discipline scope.field test)
    (asksB : b.Asks discipline scope.field (scope.meets values))
    (respects : Value.Respects scope.type.fieldType test)
    (nonempty : values.filter test ≠ [])
    (complete : scope.type.isArray = true → ∀ value ∈ values,
      test value = true) :
    (Node.leaf (ValueSet.ofValues scope (values.filter test)).leaf).IsJoin
      discipline .inter
      (.leaf a) (.leaf b) := by
  have asks :=
    (lists.of_subset nonempty (List.filter_subset_self _)).asks_ofValues
  have filtered : ∀ value,
      value.isOf (discipline.types scope.field).fieldType = true →
      scope.meets (values.filter test) value =
        (scope.meets values value && test value) := by
    intro value isValue
    rw [← lists.typed] at isValue
    exact Scope.meets_filter lists.kinds respects isValue
  apply Node.IsJoin.symm
  cases array : scope.type.isArray with
  | false =>
      rw [lists.typed] at array
      exact asks.isJoin_inter asksB asksA array filtered
  | true =>
      rw [List.filter_eq_self.mpr (complete array)] at asks ⊢
      apply asks.isJoin_inter_of_imp asksB asksA (fun value _ => rfl)
      intro value isValue meets
      rw [← lists.typed] at isValue
      obtain ⟨member, isMember, same⟩ := List.any_eq_true.mp meets
      rw [← respects member value (lists.kinds member isMember) isValue same]
      exact complete array member isMember

namespace Term

variable {a b : Term}

/-- A term that accepts the value of another on its field asks for the same. -/
theorem meets_eq_of_accepts
    (keepsA : a.Keeps discipline.types)
    (keepsB : b.Keeps discipline.types)
    (sameField : a.field = b.field)
    (accepted : a.accepts b.value = true)
    {value : Value}
    (isValue : value.isOf (discipline.types a.field).fieldType = true) :
    a.meets [a.value] value = b.meets [b.value] value := by
  have sameType := keepsA.lists.type_eq keepsB.lists sameField
  rw [← keepsA.typed] at isValue
  rw [Scope.meets_congr sameType.symm]
  simp only [Scope.meets, List.any_cons, List.any_nil, Bool.or_false]
  exact Value.equal_congr keepsA.kind (sameType ▸ keepsB.kind) isValue accepted

/-- The union of terms is right. -/
theorem merges_union
    (keepsA : a.Keeps discipline.types)
    (keepsB : b.Keeps discipline.types)
    (sameField : a.field = b.field) :
    MergeOperation.union.Merges discipline (.leaf (.term a)) (.leaf (.term b))
      (a.union b) := by
  refine .agreed fun _ => ?_
  split
  · rename_i accepted
    have asksB := asks_term keepsB
    rw [← sameField] at asksB
    apply (asks_term keepsA).isJoin_union (asks_term keepsA) asksB
    intro value isValue
    rw [meets_eq_of_accepts keepsA keepsB sameField accepted isValue,
      Bool.or_self]
  · exact keepsA.lists.isJoin_append keepsB.lists sameField (asks_term keepsA)
      (asks_term keepsB)

/-- The intersection of terms is right. -/
theorem merges_inter
    (keepsA : a.Keeps discipline.types)
    (keepsB : b.Keeps discipline.types)
    (sameField : a.field = b.field) :
    MergeOperation.inter.Merges discipline (.leaf (.term a)) (.leaf (.term b))
      (a.inter b) := by
  have asksA := asks_term keepsA
  have asksB := asks_term keepsB
  rw [← sameField] at asksB
  unfold Term.inter
  split
  · rename_i accepted
    refine .agreed fun _ => ?_
    apply asksA.isJoin_inter_of_imp asksA asksB (fun value _ => rfl)
    intro value isValue meets
    rw [← meets_eq_of_accepts keepsA keepsB sameField accepted isValue, meets]
  · rename_i refused
    split
    · exact .both asksA.formed asksB.formed
    · rename_i single
      rw [Bool.not_eq_true, keepsA.typed] at single
      apply asksA.excludes asksB single
      intro value isValue
      have sameType := keepsA.lists.type_eq keepsB.lists sameField
      rw [← keepsA.typed] at isValue
      rw [Scope.meets_congr sameType.symm]
      simp only [Scope.meets, List.any_cons, List.any_nil, Bool.or_false]
      rw [Bool.and_eq_false_imp]
      intro meetsA
      rw [Bool.not_eq_true, accepts, Scope.equal] at refused
      rw [Scope.equal,
        ← Value.equal_congr_right keepsA.kind isValue
          (sameType ▸ keepsB.kind) meetsA,
        Value.equal_comm (sameType ▸ keepsB.kind) keepsA.kind, refused]

end Term

namespace ValueSet

variable {a b set : ValueSet} {term : Term}

/-- A set on the field of another contains what its values meet. -/
theorem contains_eq_meets_of_field
    (keepsA : a.Keeps discipline.types)
    (keepsB : b.Keeps discipline.types)
    (sameField : a.field = b.field)
    {value : Value}
    (isValue : value.isOf a.type.fieldType = true) :
    b.contains value = a.meets b.values value := by
  have sameType := keepsA.lists.type_eq keepsB.lists sameField
  rw [contains_eq_meets b keepsB.arranged (sameType ▸ isValue),
    Scope.meets_congr sameType]

/-- A set whose values are all in another meets only what the other meets. -/
theorem meets_of_isSubset
    (keepsA : a.Keeps discipline.types)
    (keepsB : b.Keeps discipline.types)
    (sameField : a.field = b.field)
    (subset : a.isSubset b = true)
    {value : Value}
    (isValue : value.isOf a.type.fieldType = true)
    (meetsA : a.meets a.values value = true) :
    a.meets b.values value = true := by
  have kindsB := (keepsA.lists.type_eq keepsB.lists sameField) ▸
    keepsB.arranged.kinds
  obtain ⟨member, isMember, same⟩ := List.any_eq_true.mp meetsA
  have kind := keepsA.arranged.kinds member isMember
  have contained := List.all_eq_true.mp subset member isMember
  rw [contains_eq_meets_of_field keepsA keepsB sameField kind] at contained
  rw [← Scope.respects_meets kindsB member value kind isValue same]
  exact contained

/-- The union of value sets is right. -/
theorem merges_union
    (keepsA : a.Keeps discipline.types)
    (keepsB : b.Keeps discipline.types)
    (sameField : a.field = b.field) :
    MergeOperation.union.Merges discipline (.leaf (.valueSet a))
      (.leaf (.valueSet b))
      (a.union b) :=
  .agreed fun _ =>
    keepsA.lists.isJoin_append keepsB.lists sameField (asks_valueSet keepsA)
    (asks_valueSet keepsB)

/-- A set meets what a term asks for if it contains the value of the term. -/
theorem meets_of_contains
    (keeps : set.Keeps discipline.types)
    (keepsTerm : term.Keeps discipline.types)
    (sameField : set.field = term.field)
    (contained : set.contains term.value = true)
    {value : Value}
    (isValue : value.isOf set.type.fieldType = true)
    (meets : set.meets [term.value] value = true) :
    set.meets set.values value = true := by
  have kind := (keeps.lists.type_eq keepsTerm.lists sameField) ▸ keepsTerm.kind
  rw [contains_eq_meets set keeps.arranged kind] at contained
  rw [Scope.meets, List.any_cons, List.any_nil, Bool.or_false] at meets
  rw [← Scope.respects_meets keeps.arranged.kinds term.value value kind
    isValue meets]
  exact contained

/-- A set that does not contain the value of a term meets nothing that the term
asks for. -/
theorem meets_eq_false_of_contains_eq_false
    (keeps : set.Keeps discipline.types)
    (keepsTerm : term.Keeps discipline.types)
    (sameField : set.field = term.field)
    (absent : set.contains term.value = false)
    {value : Value}
    (isValue : value.isOf set.type.fieldType = true)
    (meets : set.meets [term.value] value = true) :
    set.meets set.values value = false := by
  have kind := (keeps.lists.type_eq keepsTerm.lists sameField) ▸ keepsTerm.kind
  rw [contains_eq_meets set keeps.arranged kind] at absent
  rw [Scope.meets, List.any_cons, List.any_nil, Bool.or_false] at meets
  rw [← Scope.respects_meets keeps.arranged.kinds term.value value kind
    isValue meets]
  exact absent

/-- The union of a value set and a term is right. -/
theorem merges_unionTerm
    (keeps : set.Keeps discipline.types)
    (keepsTerm : term.Keeps discipline.types)
    (sameField : set.field = term.field) :
    MergeOperation.union.Merges discipline (.leaf (.valueSet set))
      (.leaf (.term term))
      (set.unionTerm term) := by
  have asks := asks_valueSet keeps
  have asksTerm := Term.asks_term keepsTerm
  refine .agreed fun _ => ?_
  split
  · rename_i contained
    rw [← sameField,
      ← Scope.meets_congr (keeps.lists.type_eq keepsTerm.lists sameField)]
      at asksTerm
    apply (asks_leaf keeps).isJoin_union asks asksTerm
    intro value isValue
    rw [← keeps.typed] at isValue
    rw [Eq.comm, Bool.or_eq_left_iff_imp]
    exact meets_of_contains keeps keepsTerm sameField contained isValue
  · exact keeps.lists.isJoin_append keepsTerm.lists sameField asks asksTerm

/-- The intersection of a value set and a term is right. -/
theorem merges_interTerm
    (keeps : set.Keeps discipline.types)
    (keepsTerm : term.Keeps discipline.types)
    (sameField : set.field = term.field) :
    MergeOperation.inter.Merges discipline (.leaf (.valueSet set))
      (.leaf (.term term))
      (set.interTerm term) := by
  have asks := asks_valueSet keeps
  have asksTerm := Term.asks_term keepsTerm
  rw [← sameField,
    ← Scope.meets_congr (keeps.lists.type_eq keepsTerm.lists sameField)]
    at asksTerm
  unfold interTerm
  split
  · rename_i contained
    refine .agreed fun _ => .symm ?_
    apply asksTerm.isJoin_inter_of_imp asksTerm asks (fun value _ => rfl)
    intro value isValue
    rw [← keeps.typed] at isValue
    exact meets_of_contains keeps keepsTerm sameField contained isValue
  · rename_i absent
    rw [Bool.not_eq_true] at absent
    split
    · exact .both asks.formed asksTerm.formed
    · rename_i single
      rw [Bool.not_eq_true, keeps.typed] at single
      apply asks.excludes asksTerm single
      intro value isValue
      rw [← keeps.typed] at isValue
      rw [Bool.and_comm, Bool.and_eq_false_imp]
      exact meets_eq_false_of_contains_eq_false keeps keepsTerm sameField
        absent isValue

/-- The values that a set on the field of another contains as well meet what
both meet. -/
theorem meets_filter_contains
    (keepsA : a.Keeps discipline.types)
    (keepsB : b.Keeps discipline.types)
    (sameField : a.field = b.field)
    {value : Value}
    (isValue : value.isOf a.type.fieldType = true) :
    a.meets (a.values.filter b.contains) value =
      (a.meets a.values value && a.meets b.values value) := by
  have kindsB := (keepsA.lists.type_eq keepsB.lists sameField) ▸
    keepsB.arranged.kinds
  rw [← contains_eq_meets_of_field keepsA keepsB sameField isValue]
  apply Scope.meets_filter keepsA.arranged.kinds ?_ isValue
  intro first second isFirst isSecond same
  rw [contains_eq_meets_of_field keepsA keepsB sameField isFirst,
    contains_eq_meets_of_field keepsA keepsB sameField isSecond]
  exact Scope.respects_meets kindsB first second isFirst isSecond same

/-- The intersection of value sets is right. -/
theorem merges_inter
    (keepsA : a.Keeps discipline.types)
    (keepsB : b.Keeps discipline.types)
    (sameField : a.field = b.field) :
    MergeOperation.inter.Merges discipline (.leaf (.valueSet a))
      (.leaf (.valueSet b))
      (a.inter b) := by
  have sameType := keepsA.lists.type_eq keepsB.lists sameField
  have asksA := asks_valueSet keepsA
  have asksB := asks_valueSet keepsB
  rw [← sameField, ← Scope.meets_congr sameType] at asksB
  unfold ValueSet.inter
  split
  · split
    · rename_i subset
      refine .agreed fun _ => ?_
      apply (asks_leaf keepsA).isJoin_inter_of_imp asksA asksB
        (fun value _ => rfl)
      intro value isValue
      rw [← keepsA.typed] at isValue
      exact meets_of_isSubset keepsA keepsB sameField subset isValue
    · split
      · rename_i subset
        have asksLeaf := asks_leaf keepsB
        rw [← sameField, ← Scope.meets_congr sameType] at asksLeaf
        refine .agreed fun _ => .symm ?_
        apply asksLeaf.isJoin_inter_of_imp asksB asksA (fun value _ => rfl)
        intro value isValue
        rw [← keepsA.typed, sameType] at isValue
        rw [Scope.meets_congr sameType]
        exact meets_of_isSubset keepsB keepsA sameField.symm subset isValue
      · exact .both asksA.formed asksB.formed
  · rename_i single
    rw [Bool.not_eq_true, keepsA.typed] at single
    dsimp only
    split
    · rename_i empty
      apply asksA.excludes asksB single
      intro value isValue
      rw [← keepsA.typed] at isValue
      rw [← meets_filter_contains keepsA keepsB sameField isValue,
        List.isEmpty_iff.mp empty]
      rfl
    · rename_i nonempty
      have isThere : a.values.filter b.contains ≠ [] :=
        fun empty => nonempty (List.isEmpty_iff.mpr empty)
      have lists := keepsA.lists.of_subset isThere (List.filter_subset_self _)
      refine .agreed fun _ => ?_
      apply lists.asks_ofValues.isJoin_inter asksA asksB single
      intro value isValue
      rw [← keepsA.typed] at isValue
      exact meets_filter_contains keepsA keepsB sameField isValue

end ValueSet

namespace IdSet

theorem mem_insertAll {other : String} {ids values : List String} :
    other ∈ insertAll ids values ↔ other ∈ ids ∨ other ∈ values := by
  induction values generalizing ids with
  | nil => exact (or_iff_left List.not_mem_nil).symm
  | cons id rest hypothesis =>
      rw [insertAll, List.foldl_cons]
      refine hypothesis.trans ?_
      rw [mem_insertId, List.mem_cons, or_comm (a := other = id), or_assoc]

/-- The search by halving finds exactly the identifiers of the set. -/
theorem contains_iff_mem (ids : IdSet) (id : String) :
    ids.contains id = true ↔ id ∈ ids.values := by
  rw [contains, Option.any_eq_true]
  constructor
  · rintro ⟨found, isFound, same⟩
    exact beq_iff_eq.mp same ▸ Halving.mem_of_floorOrFirst? isFound
  · intro isMember
    refine ⟨id, Halving.floorOrFirst?_of_mem ids.increasing isMember ?_ ?_ ?_,
      beq_self_eq_true id⟩
    · exact decide_eq_false (String.lt_irrefl id)
    · exact fun other _ less => decide_eq_false (String.lt_asymm less)
    · exact fun other _ less => decide_eq_true less

theorem contains_ofValues_iff (boost : Binary64) (values : List String)
    (id : String) :
    (ofValues boost values).contains id = true ↔ id ∈ values := by
  rw [contains_iff_mem, ofValues, mem_insertAll, or_iff_right List.not_mem_nil]

variable {a b : IdSet}

/-- The union of sets of identifiers is right. -/
theorem merges_union (apart : discipline.foreign IdSet.field) :
    MergeOperation.union.Merges discipline (.leaf (.ids a)) (.leaf (.ids b))
      (a.union b) := by
  refine .agreed fun _ => ⟨.leaf rfl apart, fun _ engine document _ => ?_⟩
  rw [Node.holds_leaf, Node.holds_leaf, Node.holds_leaf, Leaf.holds, Leaf.holds,
    Leaf.holds, Bool.eq_iff_iff, contains_ofValues_iff, List.mem_append,
    ← contains_iff_mem, ← contains_iff_mem]
  exact (Bool.or_eq_true ..).symm.to_iff

/-- The intersection of sets of identifiers is right. -/
theorem merges_inter (apart : discipline.foreign IdSet.field) :
    MergeOperation.inter.Merges discipline (.leaf (.ids a)) (.leaf (.ids b))
      (a.inter b) := by
  have common : ∀ id, id ∈ a.values.filter b.contains ↔
      id ∈ a.values ∧ id ∈ b.values := by
    intro id
    rw [List.mem_filter, contains_iff_mem]
  unfold IdSet.inter
  dsimp only
  split
  · rename_i empty
    refine fun _ => ⟨rfl, fun _ engine document _ => ?_⟩
    rw [List.isEmpty_iff] at empty
    have apart := common document.id
    rw [empty] at apart
    simp only [Node.holds_leaf, Leaf.holds, Bool.eq_false_iff, ne_eq,
      Bool.and_eq_true, contains_iff_mem]
    exact fun both => List.not_mem_nil (apart.mpr both)
  · refine .agreed fun _ => ⟨.leaf rfl apart, fun _ engine document _ => ?_⟩
    rw [Node.holds_leaf, Node.holds_leaf, Node.holds_leaf, Leaf.holds,
      Leaf.holds, Leaf.holds, Bool.eq_iff_iff, contains_ofValues_iff, common,
      ← contains_iff_mem, ← contains_iff_mem]
    exact (Bool.and_eq_true ..).symm.to_iff

end IdSet

end SearchQuery
