import SearchQuery.Proofs.LeafMerges
import SearchQuery.Proofs.LeafOutcomes

/-!
# Merges collapse from either side

Two leaves merge to a single leaf in one order exactly if they do so in the
other, provided that exact values are of the kind of their field and value sets
are in order. What the single leaf is, and whether two nodes or an error come of
the merge otherwise, may depend on the order.
-/

namespace SearchQuery

namespace Binary64

/-- Only what is no number has the greatest place. -/
theorem place_eq_iff_isNaN (x : Binary64) :
    x.place = Nat.pow 2 63 ↔ x.isNaN = true := by
  unfold place
  cases undefined : x.isNaN with
  | true => simp
  | false =>
      have atMost : x.magnitude ≤ 9218868437227405312 :=
        not_lt.mp (of_decide_eq_false undefined)
      have greatest : (Nat.pow 2 63 : Int) = 9223372036854775808 := rfl
      simp only [Bool.false_eq_true, if_false, iff_false, greatest]
      split <;> omega

theorem equals_comm (x y : Binary64) : x.equals y = y.equals x := by
  rw [Bool.eq_iff_iff, equals, equals, Bool.and_eq_true, Bool.and_eq_true,
    beq_iff_eq, beq_iff_eq, Bool.not_eq_true', Bool.not_eq_true',
    Bool.eq_false_iff, Bool.eq_false_iff, ne_eq, ne_eq, ← place_eq_iff_isNaN,
    ← place_eq_iff_isNaN]
  constructor <;> rintro ⟨defined, same⟩ <;> exact ⟨same ▸ defined, same.symm⟩

end Binary64

theorem Scope.same_comm (a b : Scope) : a.same b = b.same a := by
  simp only [same, Bool.beq_comm, Binary64.equals_comm a.boost]

theorem Value.same_comm (a b : Value) : a.same b = b.same a := by
  cases a <;> cases b <;> first
    | exact Binary64.same_comm _ _
    | exact Bool.beq_comm

/-- Sameness of lists of values does not depend on the side. -/
theorem ValueSet.sameValues_comm (a b : List Value) :
    sameValues a b = sameValues b a := by
  induction a generalizing b with
  | nil => cases b <;> rfl
  | cons first rest hypothesis =>
      cases b with
      | nil => rfl
      | cons firstB restB =>
          rw [sameValues, sameValues, Value.same_comm, hypothesis]

theorem LowerBound.same_comm (a b : LowerBound) : a.same b = b.same a := by
  rw [same, same, Bool.beq_comm, Value.same_comm]

theorem UpperBound.same_comm (a b : UpperBound) : a.same b = b.same a := by
  rw [same, same, Bool.beq_comm, Value.same_comm]

theorem Range.same_comm (a b : Range) : a.same b = b.same a := by
  unfold Range.same
  rw [Scope.same_comm, Bool.beq_comm (a := a.relation),
    Bool.beq_comm (a := a.timeZone)]
  cases a.lower <;> cases b.lower <;> cases a.upper <;> cases b.upper <;>
    simp only [LowerBound.same_comm, UpperBound.same_comm]

theorem Range.sameOptions_comm (a b : Range) :
    a.sameOptions b = b.sameOptions a := by
  simp only [sameOptions, Bool.beq_comm]

/-- Sameness of leaves does not depend on the side. -/
theorem Leaf.same_comm (a b : Leaf) : a.same b = b.same a := by
  cases a <;> cases b <;> try rfl
  case range.range a b => exact Range.same_comm a b
  case valueSet.valueSet a b =>
    simp only [same, ValueSet.same, Scope.same_comm a.toScope,
      ValueSet.sameValues_comm a.values]
  case term.term a b =>
    simp only [same, Term.same, Scope.same_comm a.toScope,
      Value.same_comm a.value]
  all_goals
    simp only [same, FullText.same, Phrase.same, Pattern.same, IdSet.same,
      QueryText.same, Scope.same_comm, Bool.beq_comm, Binary64.equals_comm]

/-- The outcome of a merge is a single leaf. -/
def IsOneLeaf (outcome : Except Error Node) : Prop :=
  ∃ leaf, outcome = .ok (.leaf leaf)

@[simp] theorem isOneLeaf_agreed_iff (field : String) (left right : Binary64)
    (leaf : Leaf) :
    IsOneLeaf (agreed field left right (.leaf leaf)) ↔
      left.equals right = true := by
  unfold agreed agreeOnBoost
  split
  · rename_i equal
    exact iff_of_true ⟨leaf, rfl⟩ equal
  · rename_i differ
    exact iff_of_false (fun ⟨_, given⟩ => nomatch given) differ

@[simp] theorem isOneLeaf_leaf (leaf : Leaf) :
    IsOneLeaf (.ok (.leaf leaf)) := ⟨leaf, rfl⟩

@[simp] theorem not_isOneLeaf_either (a b : Node) :
    ¬IsOneLeaf (.ok (.either a b)) :=
  fun ⟨_, given⟩ => nomatch given

@[simp] theorem not_isOneLeaf_both (a b : Node) :
    ¬IsOneLeaf (.ok (.both a b)) :=
  fun ⟨_, given⟩ => nomatch given

@[simp] theorem not_isOneLeaf_error (error : Error) :
    ¬IsOneLeaf (.error error) :=
  fun ⟨_, given⟩ => nomatch given

/-- The narrower of two conditions is one leaf if either implies the other. -/
theorem isOneLeaf_narrower_iff
    {implies implied : Prop}
    [Decidable implies]
    [Decidable implied]
    {field : String}
    {left right : Binary64}
    {a b : Leaf}
    {x y : Node} :
    IsOneLeaf (if implies then agreed field left right (.leaf a)
      else if implied then agreed field left right (.leaf b)
      else .ok (.both x y)) ↔ (implies ∨ implied) ∧
        left.equals right = true := by
  split
  · rename_i first
    simp [first]
  · split
    · rename_i second
      simp [second]
    · rename_i neither other
      simp [neither, other]

namespace Leaf

theorem isOneLeaf_mergeSame_iff (operation : MergeOperation) (a b : Leaf) :
    IsOneLeaf (mergeSame operation.apart a b) ↔
      a.sameCondition b = true ∧ a.boost.equals b.boost = true := by
  cases operation <;>
    simp [mergeSame, MergeOperation.apart, apply_ite IsOneLeaf]

theorem isOneLeaf_mergeSame_comm (operation : MergeOperation) (a b : Leaf) :
    IsOneLeaf (mergeSame operation.apart a b) ↔
      IsOneLeaf (mergeSame operation.apart b a) := by
  rw [isOneLeaf_mergeSame_iff, isOneLeaf_mergeSame_iff, sameCondition,
    sameCondition, same_comm, Binary64.equals_comm]

end Leaf

theorem IdSet.isOneLeaf_union_comm (a b : IdSet) :
    IsOneLeaf (a.union b) ↔ IsOneLeaf (b.union a) := by
  rw [union, union, isOneLeaf_agreed_iff, isOneLeaf_agreed_iff,
    Binary64.equals_comm]

theorem IdSet.isOneLeaf_inter_iff (a b : IdSet) :
    IsOneLeaf (a.inter b) ↔
      (∃ id, id ∈ a.values ∧ id ∈ b.values) ∧
        a.boost.equals b.boost = true := by
  simp [inter, contains_iff_mem, apply_ite IsOneLeaf]

theorem IdSet.isOneLeaf_inter_comm (a b : IdSet) :
    IsOneLeaf (a.inter b) ↔ IsOneLeaf (b.inter a) := by
  rw [isOneLeaf_inter_iff, isOneLeaf_inter_iff, Binary64.equals_comm]
  simp only [and_comm]

theorem Term.isOneLeaf_union_comm (a b : Term) :
    IsOneLeaf (a.union b) ↔ IsOneLeaf (b.union a) := by
  rw [union, union, isOneLeaf_agreed_iff, isOneLeaf_agreed_iff,
    Binary64.equals_comm]

theorem Term.isOneLeaf_inter_iff (a b : Term) :
    IsOneLeaf (a.inter b) ↔ a.accepts b.value = true ∧
      a.boost.equals b.boost = true := by
  simp [inter, apply_ite IsOneLeaf]

theorem ValueSet.isOneLeaf_union_comm (a b : ValueSet) :
    IsOneLeaf (a.union b) ↔ IsOneLeaf (b.union a) := by
  rw [union, union, isOneLeaf_agreed_iff, isOneLeaf_agreed_iff,
    Binary64.equals_comm]

/-- Value sets intersect to one leaf if one is in the other, or, on a field that
is no array, if they have a value in common. -/
theorem ValueSet.isOneLeaf_inter_iff (a b : ValueSet) :
    IsOneLeaf (a.inter b) ↔
      (if a.type.isArray then a.isSubset b = true ∨ b.isSubset a = true
        else ∃ value ∈ a.values, b.contains value = true) ∧
          a.boost.equals b.boost = true := by
  unfold inter
  split
  · exact isOneLeaf_narrower_iff
  · simp [apply_ite IsOneLeaf]

theorem Range.isOneLeaf_union_iff (a b : Range) :
    IsOneLeaf (a.union b) ↔
      (a.overlaps b && a.sameOptions b) = true ∧
        a.boost.equals b.boost = true := by
  simp [Range.union, apply_ite IsOneLeaf]

/-- Ranges with the same options intersect to one leaf if they overlap, or, on
an array field, if one is in the other. -/
theorem Range.isOneLeaf_inter_iff (a b : Range) :
    IsOneLeaf (a.inter b) ↔ a.sameOptions b = true ∧
      (if a.type.isArray then b.contains a = true ∨ a.contains b = true
        else a.overlaps b = true) ∧ a.boost.equals b.boost = true := by
  unfold Range.inter
  dsimp only
  cases a.sameOptions b with
  | false => simp
  | true =>
      rw [if_neg (by simp)]
      split
      · rw [isOneLeaf_narrower_iff, and_iff_right rfl]
      · simp [apply_ite IsOneLeaf]

section Fields

variable {discipline : Discipline}

/-- Terms on one field intersect to one leaf from either side. -/
theorem Term.isOneLeaf_inter_comm
    {a b : Term}
    (keepsA : a.Keeps discipline.types)
    (keepsB : b.Keeps discipline.types)
    (sameField : a.field = b.field) :
    IsOneLeaf (a.inter b) ↔ IsOneLeaf (b.inter a) := by
  have sameType := keepsA.lists.type_eq keepsB.lists sameField
  have accepts : a.accepts b.value = b.accepts a.value := by
    rw [accepts, Term.accepts, Scope.equal, Scope.equal, ← sameType]
    exact Value.equal_comm keepsA.kind (sameType ▸ keepsB.kind)
  rw [isOneLeaf_inter_iff, isOneLeaf_inter_iff, accepts, Binary64.equals_comm]

/-- Where a value set on a field contains a value of another, the other contains
one of its own. -/
theorem ValueSet.exists_contains_symm
    {a b : ValueSet}
    (keepsA : a.Keeps discipline.types)
    (keepsB : b.Keeps discipline.types)
    (sameField : a.field = b.field)
    (shared : ∃ value ∈ a.values, b.contains value = true) :
    ∃ value ∈ b.values, a.contains value = true := by
  have sameType := keepsA.lists.type_eq keepsB.lists sameField
  obtain ⟨value, isValue, contained⟩ := shared
  have kind := keepsA.arranged.kinds value isValue
  rw [contains_eq_meets b keepsB.arranged (sameType ▸ kind), Scope.meets,
    List.any_eq_true] at contained
  obtain ⟨member, isMember, equal⟩ := contained
  have kindMember := keepsB.arranged.kinds member isMember
  refine ⟨member, isMember, ?_⟩
  rw [contains_eq_meets a keepsA.arranged (sameType ▸ kindMember), Scope.meets,
    List.any_eq_true]
  refine ⟨value, isValue, ?_⟩
  rw [Scope.equal, Value.equal_comm kind (sameType ▸ kindMember), sameType]
  exact equal

/-- Value sets on one field intersect to one leaf from either side. -/
theorem ValueSet.isOneLeaf_inter_comm
    {a b : ValueSet}
    (keepsA : a.Keeps discipline.types)
    (keepsB : b.Keeps discipline.types)
    (sameField : a.field = b.field) :
    IsOneLeaf (a.inter b) ↔ IsOneLeaf (b.inter a) := by
  have sameType := keepsA.lists.type_eq keepsB.lists sameField
  have common : (∃ value ∈ a.values, b.contains value = true) ↔
      ∃ value ∈ b.values, a.contains value = true :=
    ⟨exists_contains_symm keepsA keepsB sameField,
      exists_contains_symm keepsB keepsA sameField.symm⟩
  rw [isOneLeaf_inter_iff, isOneLeaf_inter_iff, sameType, common,
    Binary64.equals_comm, or_comm]

namespace Range

variable {a b : Range}
  (keepsA : a.Keeps discipline) (keepsB : b.Keeps discipline)
  (sameField : a.field = b.field)
include keepsA keepsB sameField

theorem isOneLeaf_union_comm :
    IsOneLeaf (a.union b) ↔ IsOneLeaf (b.union a) := by
  rw [isOneLeaf_union_iff, isOneLeaf_union_iff,
    overlaps_comm (fieldType_eq keepsA keepsB sameField), sameOptions_comm,
    Binary64.equals_comm]

theorem isOneLeaf_inter_comm :
    IsOneLeaf (a.inter b) ↔ IsOneLeaf (b.inter a) := by
  have sameType : b.type = a.type := by
    rw [keepsA.typed, keepsB.typed, sameField]
  rw [isOneLeaf_inter_iff, isOneLeaf_inter_iff,
    overlaps_comm (fieldType_eq keepsA keepsB sameField), sameOptions_comm,
    Binary64.equals_comm, sameType, or_comm]

end Range

namespace Leaf

variable {a b : Leaf}

/-- Leaves merge to one leaf if they are the same, if one is trivial, or by the
rule of their key. -/
theorem isOneLeaf_merge_iff (operation : MergeOperation) :
    IsOneLeaf (merge operation a b) ↔
      a.same b = true ∨ (a.isTrivial || b.isTrivial) = true ∨
      (a.key = b.key ∧ IsOneLeaf (mergeAtKey operation a b)) := by
  cases merging operation a b with
  | left merges stands =>
      rw [merges, ← or_assoc]
      exact iff_of_true (isOneLeaf_leaf a) (.inl stands)
  | right merges stands =>
      rw [merges]
      exact iff_of_true (isOneLeaf_leaf b) (.inr (.inl stands))
  | atKey merges sameKey differ notTrivial =>
      rw [merges, differ, notTrivial]
      simp [sameKey]
  | apart merges unlike differ notTrivial =>
      rw [merges, differ, notTrivial]
      cases operation <;> simp [MergeOperation.apart, unlike]

variable (keepsA : a.Keeps discipline) (keepsB : b.Keeps discipline)
include keepsA keepsB

/-- Leaves with one key unite to one leaf from either side. Kinds without a law
of their own ask for sameness, or have one rule for both sides. -/
theorem isOneLeaf_unionAtKey_comm (sameKey : a.key = b.key) :
    IsOneLeaf (unionAtKey a b) ↔ IsOneLeaf (unionAtKey b a) := by
  cases a <;> cases b
  case term.term => exact Term.isOneLeaf_union_comm _ _
  case valueSet.valueSet => exact ValueSet.isOneLeaf_union_comm _ _
  case range.range => exact Range.isOneLeaf_union_comm keepsA keepsB sameKey
  case presence.presence => exact iff_of_true ⟨_, rfl⟩ ⟨_, rfl⟩
  case ids.ids => exact IdSet.isOneLeaf_union_comm _ _
  all_goals first
    | exact isOneLeaf_mergeSame_comm .union _ _
    | exact .rfl

/-- Leaves with one key intersect to one leaf from either side. -/
theorem isOneLeaf_interAtKey_comm (sameKey : a.key = b.key) :
    IsOneLeaf (interAtKey a b) ↔ IsOneLeaf (interAtKey b a) := by
  cases a <;> cases b
  case term.term => exact Term.isOneLeaf_inter_comm keepsA keepsB sameKey
  case valueSet.valueSet =>
    exact ValueSet.isOneLeaf_inter_comm keepsA keepsB sameKey
  case range.range => exact Range.isOneLeaf_inter_comm keepsA keepsB sameKey
  case presence.presence => exact iff_of_true ⟨_, rfl⟩ ⟨_, rfl⟩
  case ids.ids => exact IdSet.isOneLeaf_inter_comm _ _
  all_goals first
    | exact isOneLeaf_mergeSame_comm .inter _ _
    | exact .rfl

/-- Leaves merge to one leaf from either side. -/
theorem isOneLeaf_merge_comm (operation : MergeOperation) :
    IsOneLeaf (merge operation a b) ↔ IsOneLeaf (merge operation b a) := by
  rw [isOneLeaf_merge_iff, isOneLeaf_merge_iff, same_comm, Bool.or_comm,
    eq_comm (a := a.key)]
  refine or_congr_right (or_congr_right (and_congr_right fun sameKey => ?_))
  cases operation with
  | union => exact isOneLeaf_unionAtKey_comm keepsA keepsB sameKey.symm
  | inter => exact isOneLeaf_interAtKey_comm keepsA keepsB sameKey.symm

end Leaf

end Fields

end SearchQuery
