import SearchQuery.Proofs.AbsorbedValues
import SearchQuery.Proofs.Conditions
import SearchQuery.Proofs.MergeSymmetry

/-!
# No two siblings could still collapse

A leaf that comes of a merge is of the type of its field again, so that whether
it collapses with a sibling does not depend on the side. Siblings that stay when
a leaf collapses were apart before, and a leaf is put in place only where no
sibling collapses with it.
-/

namespace SearchQuery

variable {discipline : Discipline} {operation : MergeOperation}

/-- The discipline of fields with types: ranges may stand on every field and may
be empty, and every key may be that of conditions of any kind. -/
def Discipline.ofTypes (types : String → ValueType) : Discipline :=
  ⟨types, fun _ => True, fun _ => True, fun _ => True, false⟩

/-- A leaf that comes of a right merge keeps to the discipline. -/
theorem MergeOperation.Merges.keeps
    {a b : Node}
    {result : Leaf}
    {outcome : Except Error Node}
    (merges : operation.Merges discipline a b outcome)
    (single : outcome = .ok (.leaf result)) :
    result.Keeps discipline := by
  subst single
  exact merges.formed.lawful_leaf

namespace Range

variable {range wider : Range}
  (loose : discipline.tight = false) (keeps : range.Keeps discipline)
include loose keeps

theorem keeps_of_toScope_eq (sameScope : wider.toScope = range.toScope)
    (isOf : wider.IsOf) :
    wider.Keeps discipline where
  typed := by rw [sameScope, keeps.typed]
  ordered := sameScope ▸ keeps.ordered
  isOf := isOf
  nonempty tight := by rw [loose] at tight; cases tight

/-- A leaf that comes of the union of a range and a term keeps to the
discipline. -/
theorem keeps_of_unionTerm
    {term : Term}
    {result : Leaf}
    (keepsTerm : term.Keeps discipline.types)
    (sameField : range.field = term.field)
    (united : range.unionTerm term = .ok (.leaf result)) :
    result.Keeps discipline := by
  have sameType : term.type = range.type := by
    rw [keeps.typed, keepsTerm.typed, sameField]
  unfold unionTerm at united
  split at united
  · rename_i wider taken
    cases eq_of_agreed united
    have kind := keepsTerm.kind
    rw [sameType] at kind
    have widens := widens_of_takeIn? keeps.isOf kind taken
    exact keeps_of_toScope_eq loose keeps widens.scope widens.isOf
  · cases united

/-- A leaf that comes of the union of a range and a value set keeps to the
discipline. -/
theorem keeps_of_unionValues
    {set : ValueSet}
    {result : Leaf}
    (keepsSet : set.Keeps discipline.types)
    (sameField : range.field = set.field)
    (united : range.unionValues set = .ok (.leaf result)) :
    result.Keeps discipline := by
  have sameType : set.type = range.type := by
    rw [keeps.typed, keepsSet.typed, sameField]
  have arranged : ValueSet.IsArranged range.toScope set.values := by
    obtain ⟨isOf, increasing⟩ := keepsSet.arranged
    exact ⟨sameType ▸ isOf,
      by simpa only [Scope.order, sameType] using increasing⟩
  have all := widensAll_takeInAll set.values keeps.isOf arranged
  unfold unionValues at united
  dsimp only at united
  split at united
  · cases united
  · have given := eq_of_agreed united
    split at given
    · cases given
      exact keeps_of_toScope_eq loose keeps all.scope all.isOf
    · cases given

end Range

namespace Leaf

variable {a b result : Leaf}

/-- A leaf that keeps to a discipline and is not trivial is well-formed. -/
theorem wellFormed_of_keeps
    {leaf : Leaf}
    (notTrivial : leaf.isTrivial = false)
    (keeps : leaf.Keeps discipline) :
    (Node.leaf leaf).WellFormed (Keeps discipline) := by
  refine .leaf ?_ keeps
  cases leaf with
  | nothing => cases notTrivial
  | _ => rfl

/-- A leaf that is not trivial is not everything. -/
theorem ne_everything
    {leaf : Leaf}
    (notTrivial : leaf.isTrivial = false)
    (boost : Binary64) :
    leaf ≠ .everything boost := by
  rintro rfl
  cases notTrivial

/-- A leaf that comes of the union of leaves with one key keeps to the
discipline. -/
theorem keeps_of_unionAtKey
    (formedA : (Node.leaf a).WellFormed (Keeps discipline))
    (formedB : (Node.leaf b).WellFormed (Keeps discipline))
    (loose : discipline.tight = false)
    (sameKey : a.key = b.key)
    (united : unionAtKey a b = .ok (.leaf result)) :
    result.Keeps discipline := by
  have keepsA := formedA.lawful_leaf
  have keepsB := formedB.lawful_leaf
  unfold unionAtKey at united
  split at united
  · cases united
    exact keepsA
  · cases united
    exact keepsB
  · exact (IdSet.merges_union keepsA).keeps united
  · cases united
  · cases united
  · exact (Term.merges_union keepsA keepsB sameKey).keeps united
  · exact (ValueSet.merges_unionTerm keepsA keepsB sameKey).keeps united
  · exact (ValueSet.merges_unionTerm keepsB keepsA sameKey.symm).keeps united
  · exact (ValueSet.merges_union keepsA keepsB sameKey).keeps united
  · exact (Range.merges_union keepsA keepsB sameKey).keeps united
  · exact Range.keeps_of_unionTerm loose keepsA keepsB sameKey united
  · exact Range.keeps_of_unionTerm loose keepsB keepsA sameKey.symm united
  · exact Range.keeps_of_unionValues loose keepsA keepsB sameKey united
  · exact Range.keeps_of_unionValues loose keepsB keepsA sameKey.symm united
  · exact (Pattern.merges_union keepsA keepsB rfl sameKey).keeps united
  · exact (Pattern.merges_union keepsA keepsB rfl sameKey).keeps united
  · exact (Pattern.merges_union keepsB keepsA rfl sameKey.symm).keeps united
  · exact (Pattern.merges_union keepsB keepsA rfl sameKey.symm).keeps united
  · exact (merges_mergeSame formedA formedB
      (.either formedA formedB)).keeps united

/-- A leaf that comes of a merge of leaves keeps to the discipline. -/
theorem keeps_of_merge
    (loose : discipline.tight = false)
    (keepsA : a.Keeps discipline)
    (keepsB : b.Keeps discipline)
    (merged : merge operation a b = .ok (.leaf result)) :
    result.Keeps discipline := by
  cases merging operation a b with
  | left merges =>
      cases merges.symm.trans merged
      exact keepsA
  | right merges =>
      cases merges.symm.trans merged
      exact keepsB
  | atKey merges sameKey _ notTrivial =>
      obtain ⟨notTrivialA, notTrivialB⟩ := Bool.or_eq_false_iff.mp notTrivial
      have formedA := wellFormed_of_keeps notTrivialA keepsA
      have formedB := wellFormed_of_keeps notTrivialB keepsB
      replace merged := merges.symm.trans merged
      cases operation with
      | union => exact keeps_of_unionAtKey formedA formedB loose sameKey merged
      | inter =>
          exact (merges_interAtKey formedA formedB (ne_everything notTrivialA)
            (ne_everything notTrivialB) sameKey).keeps merged
  | apart merges => cases operation <;> cases merges.symm.trans merged

end Leaf

namespace Node

/-- A node that is a leaf obeys a law. -/
def IsLawful (law : Leaf → Prop) : Node → Prop
  | .leaf content => law content
  | .clauses _ => True

/-- Two nodes are apart: they do not merge to one leaf from either side if they
are leaves. -/
def AreApart (operation : MergeOperation) (x y : Node) : Prop :=
  ∀ a b, x = .leaf a → y = .leaf b →
    ¬IsOneLeaf (Leaf.merge operation a b) ∧
      ¬IsOneLeaf (Leaf.merge operation b a)

theorem AreApart.symm {x y : Node} (apart : x.AreApart operation y) :
    y.AreApart operation x :=
  fun a b isA isB => (apart b a isB isA).symm

end Node

namespace Siblings

open Node (AreApart)

theorem preserves_keeps (operation : MergeOperation)
    (loose : discipline.tight = false) :
    Preserves operation (Node.IsLawful (Leaf.Keeps discipline))
      fun _ => true := by
  intro a b merged keepsA keepsB merges
  refine ⟨Leaf.keeps_of_merge loose keepsA keepsB merges, ?_⟩
  cases operation <;> rfl

theorem Run.sublist {front last : Front} (run : Run operation front last) :
    last.members.Sublist front.members := by
  induction run with
  | refl => exact .refl _
  | tail _ collapse hypothesis =>
      obtain ⟨isMember, merged⟩ := collapse
      exact (List.eraseIdx_sublist _ _).trans hypothesis

/-- A leaf that collapses with no member is apart from the members. It was tried
on the right of them only, but leaves collapse from either side. -/
theorem Front.IsStuck.areApart
    {front : Front}
    {member : Node}
    (stuck : front.IsStuck operation)
    (keep : ∀ node ∈ front.nodes, node.IsLawful (Leaf.Keeps discipline))
    (isMember : member ∈ front.members) :
    (Node.leaf front.leaf).AreApart operation member := by
  rintro _ content ⟨⟩ rfl
  obtain ⟨position, isAt⟩ := List.mem_iff_getElem?.mp isMember
  have keepsLeaf : front.leaf.Keeps discipline :=
    keep (.leaf front.leaf) List.mem_cons_self
  have keepsMember : content.Keeps discipline :=
    keep _ (List.mem_cons_of_mem _ isMember)
  have apart : ¬IsOneLeaf (Leaf.merge operation content front.leaf) := by
    rintro ⟨result, merged⟩
    exact stuck _ (.collapse isAt merged)
  exact ⟨mt (Leaf.isOneLeaf_merge_comm keepsLeaf keepsMember operation).mp
    apart, apart⟩

variable {members nodes result : List Node} {node : Node}

/-- A node comes into a group of nodes that are apart so that they stay apart:
those that remain were apart before, and the node is stuck among them. -/
theorem pairwise_areApart_of_absorb
    (loose : discipline.tight = false)
    (keep : ∀ member ∈ members, member.IsLawful (Leaf.Keeps discipline))
    (keeps : node.IsLawful (Leaf.Keeps discipline))
    (apart : members.Pairwise (AreApart operation))
    (absorbed : absorb operation members node = .ok result) :
    result.Pairwise (AreApart operation) := by
  cases node with
  | clauses content =>
      cases absorbed
      refine List.pairwise_append.mpr ⟨apart, List.pairwise_singleton _ _, ?_⟩
      rintro member - added isAdded a b - isB
      rw [List.mem_singleton.mp isAdded] at isB
      cases isB
  | leaf leaf =>
      obtain ⟨last, run, stuck, permutes⟩ :=
        exists_run_of_settle_ok (by simp) absorbed
      obtain ⟨keepLast, -⟩ := Run.invariant
        (preserves_keeps operation loose) run
        (List.forall_mem_cons.mpr ⟨keeps, keep⟩)
      rw [permutes.pairwise_iff AreApart.symm]
      exact List.pairwise_cons.mpr
        ⟨fun member isMember => stuck.areApart keepLast isMember,
          apart.sublist run.sublist⟩

/-- Nodes come one after the other into a group of nodes that are apart so that
they stay apart. -/
theorem pairwise_areApart_of_foldlM
    (loose : discipline.tight = false)
    (keep : ∀ member ∈ members, member.IsLawful (Leaf.Keeps discipline))
    (keepNodes : ∀ node ∈ nodes, node.IsLawful (Leaf.Keeps discipline))
    (apart : members.Pairwise (AreApart operation))
    (absorbed : nodes.foldlM (absorb operation) members = .ok result) :
    result.Pairwise (AreApart operation) := by
  induction nodes generalizing members with
  | nil =>
      cases absorbed
      exact apart
  | cons node rest hypothesis =>
      obtain ⟨keeps, keepRest⟩ := List.forall_mem_cons.mp keepNodes
      rw [List.foldlM_cons] at absorbed
      obtain ⟨grown, first, absorbed⟩ := exists_of_bind_eq_ok absorbed
      obtain ⟨-, keepGrown, -⟩ :=
        absorb_ok (preserves_keeps operation loose) keep keeps first
      exact hypothesis keepGrown keepRest
        (pairwise_areApart_of_absorb loose keep keeps apart first) absorbed

/-- Siblings of which the leaves have the types of their fields and values of
their kinds are reduced so that no two leaves at different places merge to one
leaf, in whichever order they are merged. -/
theorem exists_error_or_clauses_of_absorbAll
    {types : String → ValueType}
    {i j : Nat}
    {a b : Leaf}
    (keep : ∀ leaf, .leaf leaf ∈ nodes → leaf.Keeps (.ofTypes types))
    (absorbed : absorbAll operation nodes = .ok result)
    (differ : i ≠ j)
    (isA : result[i]? = some (.leaf a))
    (isB : result[j]? = some (.leaf b)) :
    (∃ error, Node.merge operation (.leaf a) (.leaf b) = .error error) ∨
      ∃ content, Node.merge operation (.leaf a) (.leaf b) =
        .ok (.clauses content) := by
  have lawful :
      ∀ node ∈ nodes, node.IsLawful (Leaf.Keeps (.ofTypes types)) := by
    rintro (leaf | content) isNode
    · exact keep leaf isNode
    · trivial
  have apart := pairwise_areApart_of_foldlM rfl (by simp) lawful .nil absorbed
  have notOne : ¬IsOneLeaf (Leaf.merge operation a b) := by
    obtain ⟨boundA, isA⟩ := List.getElem?_eq_some_iff.mp isA
    obtain ⟨boundB, isB⟩ := List.getElem?_eq_some_iff.mp isB
    rcases Nat.lt_or_gt_of_ne differ with before | after
    · exact (List.pairwise_iff_getElem.mp apart i j boundA boundB before a b
        isA isB).1
    · exact (List.pairwise_iff_getElem.mp apart j i boundB boundA after b a
        isB isA).2
  have isMerge : Node.merge operation (.leaf a) (.leaf b) =
      Leaf.merge operation a b := by
    cases operation <;> rfl
  rw [isMerge]
  rcases merged : Leaf.merge operation a b with error | (leaf | content)
  · exact .inl ⟨error, rfl⟩
  · exact absurd ⟨leaf, merged⟩ notOne
  · exact .inr ⟨content, rfl⟩

/-- Sizes that come together: the three goes into the sizes between one and
five, and the sizes between ten and twenty stay apart from them. -/
theorem exists_error_or_clauses_of_absorbAll_sizes :
    absorbAll .union [.leaf (.sizeIs 3), .leaf (.sizeBetween 10 20),
      .leaf (.sizeBetween 1 5)] =
        .ok [.leaf (.sizeBetween 1 5), .leaf (.sizeBetween 10 20)] ∧
      ((∃ error, Node.merge .union (.leaf (.sizeBetween 10 20))
        (.leaf (.sizeBetween 1 5)) =
          .error error) ∨
        ∃ content, Node.merge .union (.leaf (.sizeBetween 10 20))
          (.leaf (.sizeBetween 1 5)) =
          .ok (.clauses content)) := by
  have absorbed : absorbAll .union
      [.leaf (.sizeIs 3), .leaf (.sizeBetween 10 20),
        .leaf (.sizeBetween 1 5)] =
        .ok [.leaf (.sizeBetween 1 5), .leaf (.sizeBetween 10 20)] := by
    with_unfolding_all rfl
  have keep : ∀ leaf, .leaf leaf ∈
      [Node.leaf (.sizeIs 3), .leaf (.sizeBetween 10 20),
      .leaf (.sizeBetween 1 5)] → leaf.Keeps (.ofTypes fun _ =>
        ⟨.integer, false⟩) := by
    simp only [List.mem_cons, List.not_mem_nil, or_false, Node.leaf.injEq]
    rintro _ (rfl | rfl | rfl)
    · exact ⟨rfl, rfl⟩
    · exact ⟨rfl, trivial, ⟨by rintro _ ⟨⟩; rfl, by rintro _ ⟨⟩; rfl⟩,
        by rintro ⟨⟩⟩
    · exact ⟨rfl, trivial, ⟨by rintro _ ⟨⟩; rfl, by rintro _ ⟨⟩; rfl⟩,
        by rintro ⟨⟩⟩
  exact ⟨absorbed,
    exists_error_or_clauses_of_absorbAll (i := 1) (j := 0) keep absorbed
    (by decide) rfl rfl⟩

end Siblings
end SearchQuery
