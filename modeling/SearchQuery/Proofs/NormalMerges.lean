import SearchQuery.Proofs.Conditions
import SearchQuery.Proofs.NormalForm

/-!
# Merges keep the normal form

Where merges and complements of leaves are in normal form, so are those of
trees. A merge takes in the clauses of one tree one by one or puts the trees
side by side, and a complement takes the clauses apart where one kind of them is
all there is.
-/

namespace SearchQuery

/-- What comes of lawful leaves is in normal form, with leaves that obey the law
again. -/
structure Leaf.IsStable (law : Leaf → Prop) : Prop where
  merge : ∀ operation a b node, (Node.leaf a).IsNormal law →
    (Node.leaf b).IsNormal law →
    Leaf.merge operation a b = .ok node → node.IsNormal law
  complement : ∀ leaf node, (Node.leaf leaf).IsNormal law →
    leaf.complement = .ok node →
    node.IsNormal law

variable {law : Leaf → Prop}

/-- Merges of leaves that stand among clauses of a kind may stand there. -/
theorem Leaf.IsStable.preserves
    (stable : IsStable law)
    (operation : MergeOperation)
    (occur : Occur) :
    Siblings.Preserves operation (Node.Belongs law occur) fun _ => true := by
  intro a b merged belongsA belongsB success
  have normal :=
    stable.merge operation a b _ belongsA.normal belongsB.normal success
  refine ⟨normal.belongs_leaf occur, ?_⟩
  cases operation <;> rfl

theorem Node.Belongs.excluded {node : Node}
    (belongs : node.Belongs law .should) :
    node.Belongs law .mustNot := by
  refine ⟨belongs.normal, ?_⟩
  cases node with
  | leaf content => trivial
  | clauses content => exact belongs.mayStand

theorem Node.Belongs.alternative {node : Node}
    (belongs : node.Belongs law .mustNot) :
    node.Belongs law .should := by
  refine ⟨belongs.normal, ?_⟩
  cases node with
  | leaf content => trivial
  | clauses content => exact belongs.mayStand

namespace Clauses

variable {clauses other result : Clauses Node} {nodes : List Node}
  {occur : Occur}
  {operation : MergeOperation} {leaf : Leaf} {merged : Node}

/-- Which operators clauses were built from does not matter for their normal
form. -/
theorem AreNormal.withOperators
    (normal : clauses.AreNormal law)
    (operators : Operators) :
    { clauses with operators := operators }.AreNormal law where
  shaped := normal.shaped.withOperators operators
  low := normal.low
  members occur := by
    cases occur
    · exact normal.members .must
    · exact normal.members .filter
    · exact normal.members .should
    · exact normal.members .mustNot

/-- Clauses that take over alternatives stay in normal form. -/
theorem AreNormal.takeAlternatives
    (normal : clauses.AreNormal law)
    (otherNormal : other.AreNormal law) :
    (clauses.takeAlternatives other).AreNormal law := by
  refine ⟨(normal.areWellFormed.takeAlternatives
    otherNormal.areWellFormed).shaped, ?_, ?_⟩
  · unfold Clauses.takeAlternatives
    split
    · exact normal.low
    · exact Nat.max_le.mpr ⟨otherNormal.low, Nat.le_refl 1⟩
  · unfold Clauses.takeAlternatives
    split
    · exact normal.members
    · intro occur
      cases occur
      · exact normal.members .must
      · exact normal.members .filter
      · exact otherNormal.members .should
      · exact normal.members .mustNot

/-- Clauses that are not just alternatives may be an alternative or be
excluded. -/
theorem exists_nodes_ne_nil
    (normal : (Node.clauses clauses).IsNormal law)
    (mixed : clauses.isDisjunctive = false) :
    ∃ occur, occur ≠ .should ∧ clauses.nodes occur ≠ [] := by
  have shaped := normal.areNormal.shaped
  by_contra alone
  push Not at alone
  have absent : ∀ occur, occur ≠ .should → clauses.bucket occur = [] :=
    fun occur differs =>
      (shaped.nodes_eq_nil_iff occur).mp (alone occur differs)
  have must : clauses.must = [] := absent .must (by decide)
  have filter : clauses.filter = [] := absent .filter (by decide)
  have mustNot : clauses.mustNot = [] := absent .mustNot (by decide)
  have nonempty := normal.clauses_isEmpty
  simp_all [isDisjunctive, isEmpty, normal.areNormal.low]

theorem belongs_should
    (normal : (Node.clauses clauses).IsNormal law)
    (mixed : clauses.isDisjunctive = false) :
    (Node.clauses clauses).Belongs law .should :=
  ⟨normal, exists_nodes_ne_nil normal mixed⟩

/-- The alternatives that a tree stands for may be alternatives. -/
theorem belongs_of_mem_disjuncts
    {node : Node}
    (normal : (Node.clauses clauses).IsNormal law)
    (isDisjunct : node ∈ clauses.disjuncts) :
    node.Belongs law .should := by
  unfold disjuncts at isDisjunct
  split at isDisjunct
  · exact normal.areNormal.members .should node isDisjunct
  · rename_i mixed
    rw [List.mem_singleton.mp isDisjunct]
    exact belongs_should normal (Bool.not_eq_true _ ▸ mixed)

section Merging

variable (stable : Leaf.IsStable law)
include stable

/-- Absorbing nodes that may stand among clauses of a kind keeps clauses in
normal form. -/
theorem AreNormal.absorbAll
    (normal : clauses.AreNormal law)
    (belong : ∀ node ∈ nodes, node.Belongs law occur)
    (raised : occur ≠ .should ∨ 1 ≤ clauses.minimumShould)
    (absorbed : clauses.absorbAll occur operation nodes = .ok result) :
    result.AreNormal law ∧
      (clauses.isEmpty = false ∨ nodes ≠ [] → result.isEmpty = false) := by
  have absorbs := absorbs_of_absorbAll (stable.preserves operation occur)
    (normal.members occur) normal.shaped belong
    (fun node isNode =>
      (belong node isNode).normal.wellFormed.isEmpty_eq_false) absorbed
  refine ⟨⟨absorbs.shaped, ?_, ?_⟩, absorbs.nonempty⟩
  · rw [absorbs.minimum raised]
    exact normal.low
  · intro kind node isMember
    by_cases same : kind = occur
    · subst same
      exact absorbs.property node isMember
    · rw [Clauses.nodes, absorbs.others kind same] at isMember
      exact normal.members kind node isMember

/-- Adding alternatives to a disjunction keeps the normal form. -/
theorem isNormal_of_addDisjuncts
    {operators : Operators}
    (normal : (Node.clauses clauses).IsNormal law)
    (disjunctive : clauses.isDisjunctive = true)
    (belong : ∀ node ∈ nodes, node.Belongs law .should)
    (success : clauses.addDisjuncts nodes operators = .ok merged) :
    merged.IsNormal law := by
  have raised := (normal.areNormal.shaped.isDisjunction disjunctive).minimum
  unfold addDisjuncts at success
  cases absorbed : clauses.absorbAll .should .union nodes with
  | error error =>
      rw [absorbed] at success
      cases success
  | ok result =>
      rw [absorbed] at success
      cases success
      obtain ⟨resultNormal, nonempty⟩ := normal.areNormal.absorbAll
        stable belong
        (.inr (Nat.le_of_eq raised.symm)) absorbed
      exact (resultNormal.withOperators _).node
        (nonempty (.inl normal.clauses_isEmpty))

variable (normal : (Node.clauses clauses).IsNormal law)
include normal

/-- The union of clauses and a leaf is in normal form. -/
theorem isNormal_of_unionLeaf
    (leafNormal : (Node.leaf leaf).IsNormal law)
    (success : clauses.unionLeaf leaf = .ok merged) :
    merged.IsNormal law := by
  unfold unionLeaf at success
  rw [if_neg (Bool.eq_false_iff.mp normal.clauses_isEmpty)] at success
  split at success
  · rename_i disjunctive
    refine isNormal_of_addDisjuncts stable normal disjunctive ?_ success
    exact List.forall_mem_singleton.mpr (leafNormal.belongs_leaf .should)
  · rename_i mixed
    cases success
    exact Node.isNormal_either
      (belongs_should normal (Bool.not_eq_true _ ▸ mixed))
      (leafNormal.belongs_leaf .should)

/-- The intersection of clauses and a leaf is in normal form. -/
theorem isNormal_of_interLeaf
    (leafNormal : (Node.leaf leaf).IsNormal law)
    (success : clauses.interLeaf leaf = .ok merged) :
    merged.IsNormal law := by
  unfold interLeaf at success
  rw [if_neg (Bool.eq_false_iff.mp normal.clauses_isEmpty),
    ← absorbAll_singleton] at success
  cases absorbed :
    clauses.absorbAll (if leaf.isFilter then .filter else .must) .inter
      [.leaf leaf] with
  | error error =>
      rw [absorbed] at success
      cases success
  | ok result =>
      rw [absorbed] at success
      cases success
      obtain ⟨resultNormal, nonempty⟩ := normal.areNormal.absorbAll stable
        (List.forall_mem_singleton.mpr (leafNormal.belongs_leaf _))
        (.inl (by split <;> decide)) absorbed
      exact resultNormal.node (nonempty (.inl normal.clauses_isEmpty))

omit stable in
/-- The complement of clauses is in normal form. -/
theorem isNormal_of_complement (success : clauses.complement = .ok merged) :
    merged.IsNormal law := by
  have absent := normal.areNormal.shaped.nodes_eq_nil_iff
  have members := normal.areNormal.members
  have negated : clauses.isDisjunctive = false →
      (Node.clauses clauses).negated.IsNormal law :=
    fun mixed =>
      Node.isNormal_negated ⟨normal, exists_nodes_ne_nil normal mixed⟩
  unfold Clauses.complement at success
  rw [if_neg (Bool.eq_false_iff.mp normal.clauses_isEmpty)] at success
  dsimp only at success
  split at success
  · rename_i conjunctive alternatives exclusions
    have noneExcluded : clauses.nodes .mustNot = [] :=
      (absent .mustNot).mpr (by simpa [bucket] using exclusions)
    have several := normal.several
    rw [noneExcluded] at several
    rw [if_neg (by simp at several; omega)] at success
    cases success
    exact negated (by simp_all [isDisjunctive])
  · rename_i conjunctive alternatives exclusions
    rw [if_pos normal.areNormal.low] at success
    cases success
    refine Node.isNormal_negation ?_ fun node isMember =>
      (members .should node isMember).excluded
    exact mt (absent .should).mp (by simpa [bucket] using alternatives)
  · rename_i conjunctive alternatives exclusions
    have excluded : clauses.nodes .mustNot ≠ [] :=
      mt (absent .mustNot).mp (by simpa [bucket] using exclusions)
    split at success
    · rename_i node single
      cases success
      exact (members .mustNot _ (single ▸ List.mem_singleton_self _)).normal
    · rename_i notSingle
      cases success
      refine Node.isNormal_disjunction ?_ fun node isMember =>
        (members .mustNot node isMember).alternative
      rcases given : clauses.nodes .mustNot with _ | ⟨node, _ | ⟨next, rest⟩⟩
      · exact absurd given excluded
      · exact absurd given (notSingle node)
      · exact Nat.le_add_left 2 rest.length
  · rename_i notConjunctive notAlternatives notExclusions
    cases success
    apply negated
    by_contra disjunctive
    simp_all [isDisjunctive]

variable (otherNormal : (Node.clauses other).IsNormal law)
include otherNormal

/-- The union of clauses is in normal form. -/
theorem isNormal_of_union (success : clauses.union other = .ok merged) :
    merged.IsNormal law := by
  unfold Clauses.union at success
  rw [if_neg (Bool.eq_false_iff.mp normal.clauses_isEmpty),
    if_neg (Bool.eq_false_iff.mp otherNormal.clauses_isEmpty)] at success
  split at success
  · rename_i disjunctive
    exact isNormal_of_addDisjuncts stable normal disjunctive
      (fun _ => belongs_of_mem_disjuncts otherNormal) success
  · rename_i mixed
    have belongs := belongs_should normal (Bool.not_eq_true _ ▸ mixed)
    split at success
    · rename_i disjunctive
      exact isNormal_of_addDisjuncts stable otherNormal disjunctive
        (List.forall_mem_singleton.mpr belongs) success
    · rename_i mixedOther
      cases success
      exact Node.isNormal_either belongs
        (belongs_should otherNormal (Bool.not_eq_true _ ▸ mixedOther))

/-- Absorbing the clauses of another node keeps clauses in normal form. -/
theorem isNormal_of_absorbClauses
    (absorbed : clauses.absorbClauses other = .ok result) :
    result.AreNormal law ∧ result.isEmpty = false := by
  have members := otherNormal.areNormal.members
  obtain ⟨withMust, musts, absorbed⟩ := exists_of_bind_eq_ok absorbed
  obtain ⟨withFilter, filters, absorbed⟩ := exists_of_bind_eq_ok absorbed
  obtain ⟨mustNormal, mustNonempty⟩ := normal.areNormal.absorbAll stable
    (members .must)
    (.inl (by decide)) musts
  obtain ⟨filterNormal, filterNonempty⟩ := mustNormal.absorbAll stable
    (members .filter)
    (.inl (by decide)) filters
  obtain ⟨resultNormal, resultNonempty⟩ := filterNormal.absorbAll stable
    (members .mustNot)
    (.inl (by decide)) absorbed
  exact ⟨resultNormal, resultNonempty (.inl (filterNonempty (.inl (mustNonempty
    (.inl normal.clauses_isEmpty)))))⟩

/-- The intersection of clauses is in normal form. -/
theorem isNormal_of_inter (success : clauses.inter other = .ok merged) :
    merged.IsNormal law := by
  unfold Clauses.inter at success
  rw [if_neg (Bool.eq_false_iff.mp normal.clauses_isEmpty),
    if_neg (Bool.eq_false_iff.mp otherNormal.clauses_isEmpty)] at success
  split at success
  · rw [addConjuncts_eq] at success
    cases absorbed : clauses.absorbClauses other with
    | error error =>
        rw [absorbed] at success
        cases success
    | ok result =>
        rw [absorbed] at success
        cases success
        obtain ⟨resultNormal, nonempty⟩ :=
          isNormal_of_absorbClauses stable normal otherNormal absorbed
        exact ((resultNormal.takeAlternatives
          otherNormal.areNormal).withOperators _).node
          (isEmpty_takeAlternatives nonempty)
  · rename_i alternatives
    cases success
    simp only [Bool.or_eq_true, List.isEmpty_iff, not_or] at alternatives
    have belongs : ∀ {content : Clauses Node},
        (Node.clauses content).IsNormal law →
        content.should ≠ [] → (Node.clauses content).Belongs law .must :=
      fun contentNormal some =>
        ⟨contentNormal,
          mt (contentNormal.areNormal.shaped.nodes_eq_nil_iff .should).mp some⟩
    exact Node.isNormal_both (belongs normal alternatives.1)
      (belongs otherNormal alternatives.2)

end Merging

end Clauses

namespace Node

variable {a b node merged : Node} {nodes : List Node}
  {operation : MergeOperation}
  (stable : Leaf.IsStable law)
include stable

/-- The union of trees is in normal form. -/
theorem isNormal_of_union
    (normalA : a.IsNormal law)
    (normalB : b.IsNormal law)
    (success : a.union b = .ok merged) :
    merged.IsNormal law := by
  unfold Node.union at success
  split at success
  · exact stable.merge .union _ _ _ normalA normalB success
  · split at success
    · cases success
      exact normalA
    · split at success
      · cases normalA.condition_leaf
      · cases normalB.condition_leaf
      · cases success
        exact normalA
      · cases success
        exact normalB
      · exact Clauses.isNormal_of_union stable normalA normalB success
      · exact Clauses.isNormal_of_unionLeaf stable normalA normalB success
      · exact Clauses.isNormal_of_unionLeaf stable normalB normalA success
      · exact stable.merge .union _ _ _ normalA normalB success

/-- The intersection of trees is in normal form. -/
theorem isNormal_of_inter
    (normalA : a.IsNormal law)
    (normalB : b.IsNormal law)
    (success : a.inter b = .ok merged) :
    merged.IsNormal law := by
  unfold Node.inter at success
  split at success
  · exact stable.merge .inter _ _ _ normalA normalB success
  · split at success
    · cases success
      exact normalA
    · split at success
      · cases normalA.condition_leaf
      · cases normalB.condition_leaf
      · cases success
        exact normalB
      · cases success
        exact normalA
      · exact Clauses.isNormal_of_inter stable normalA normalB success
      · exact Clauses.isNormal_of_interLeaf stable normalA normalB success
      · exact Clauses.isNormal_of_interLeaf stable normalB normalA success
      · exact stable.merge .inter _ _ _ normalA normalB success

/-- Merges of trees are in normal form. -/
theorem isNormal_of_merge
    (normalA : a.IsNormal law)
    (normalB : b.IsNormal law)
    (success : merge operation a b = .ok merged) :
    merged.IsNormal law := by
  cases operation with
  | union => exact isNormal_of_union stable normalA normalB success
  | inter => exact isNormal_of_inter stable normalA normalB success

theorem isNormal_of_complement
    (normal : node.IsNormal law)
    (success : node.complement = .ok merged) :
    merged.IsNormal law := by
  cases node with
  | leaf content => exact stable.complement content merged normal success
  | clauses content => exact Clauses.isNormal_of_complement normal success

/-- Merging trees into a tree one after the other keeps the normal form. -/
theorem isNormal_of_foldlM
    (normal : node.IsNormal law)
    (nodesNormal : ∀ node ∈ nodes, node.IsNormal law)
    (success : nodes.foldlM (merge operation) node = .ok merged) :
    merged.IsNormal law := by
  induction nodes generalizing node with
  | nil =>
      cases success
      exact normal
  | cons next rest hypothesis =>
      obtain ⟨nextNormal, restNormal⟩ := List.forall_mem_cons.mp nodesNormal
      rw [List.foldlM_cons] at success
      obtain ⟨joined, merges, success⟩ := exists_of_bind_eq_ok success
      exact hypothesis (isNormal_of_merge stable normal nextNormal merges)
        restNormal success

/-- Merging any number of trees keeps the normal form. -/
theorem isNormal_of_mergeAll
    (nodesNormal : ∀ node ∈ nodes, node.IsNormal law)
    (success : mergeAll operation nodes = .ok merged) :
    merged.IsNormal law := by
  cases nodes with
  | nil => cases success
  | cons node rest =>
      obtain ⟨normal, restNormal⟩ := List.forall_mem_cons.mp nodesNormal
      exact isNormal_of_foldlM stable normal restNormal success

end Node
end SearchQuery
