import SearchQuery.Proofs.Absorption

/-!
# The union law

The union of well-formed trees holds where one of them does. A disjunction takes
in the alternatives of the other tree, and other trees stand side by side under
a new one.
-/

namespace SearchQuery

variable {discipline : Discipline} {operation : MergeOperation}
  {engine : Engine}
  {document : StoredDocument}

namespace Clauses

variable {clauses result : Clauses Node} {nodes : List Node} {occur : Occur}

/-- Absorbing alternatives makes a disjunction of a disjunction. -/
theorem Gains.isDisjunction
    (gains : clauses.Gains discipline .union .should nodes result)
    (disjunction : clauses.IsDisjunction)
    (some : nodes ≠ []) :
    result.IsDisjunction where
  others occur differs := by
    rw [Clauses.nodes, gains.others occur differs]
    exact disjunction.others occur differs
  minimum := by
    rw [gains.minimum (.inr (Nat.le_of_eq disjunction.minimum.symm))]
    exact disjunction.minimum
  nonempty := by
    intro noAlternatives
    apply Bool.eq_false_iff.mp (gains.nonempty (.inr some))
    rw [isEmpty_iff]
    intro occur
    rw [← gains.formed.shaped.nodes_eq_nil_iff]
    by_cases same : occur = .should
    · rw [same, noAlternatives]
    · rw [Clauses.nodes, gains.others occur same]
      exact disjunction.others occur same

/-- Adding well-formed alternatives to a disjunction is right for a node that
holds where one of them does. -/
theorem merges_addDisjuncts
    {other : Node}
    (tight : discipline.tight = true)
    (formed : clauses.AreWellFormed (Leaf.Keeps discipline))
    (disjunctive : clauses.isDisjunctive = true)
    (some : nodes ≠ [])
    (nodesFormed : ∀ node ∈ nodes, node.WellFormed (Leaf.Keeps discipline))
    (alike : ∀ engine document, other.holds engine document =
      nodes.any (Node.holds engine document))
    (operators : Operators) :
    MergeOperation.union.Merges discipline (.clauses clauses) other
      (clauses.addDisjuncts nodes operators) := by
  have disjunction := formed.shaped.isDisjunction disjunctive
  have sound :
      MergeOperation.union.IsSound discipline
        (Node.WellFormed (Leaf.Keeps discipline)) :=
    MergeOperation.isSound_wellFormed fun _ => tight
  have given := formed.members .should
  unfold addDisjuncts
  cases absorbed : clauses.absorbAll .should .union nodes with
  | error error =>
      intro exclusion
      cases (excludes_of_absorbAll sound formed given nodesFormed absorbed
        exclusion).1
  | ok merged =>
      have gains := gains_of_absorbAll sound formed given nodesFormed absorbed
      have resultFormed :=
        gains.formed.withOperators (merged.operators.union operators)
      constructor
      · exact resultFormed.node (gains.nonempty (.inr some))
      · intro separated engine document fits
        have joined := (gains.joins separated engine document fits).joined
        simp only [verdicts, MergeOperation.joinAll, MergeOperation.join,
          List.any_map] at joined
        rw [holds_node resultFormed.shaped, holds_withOperators,
          (gains.isDisjunction disjunction some).holds,
          disjunction.holds, alike]
        exact joined

/-- What a node with clauses stands for as alternatives is some well-formed
nodes. -/
theorem disjuncts_ne_nil
    (formed : (Node.clauses clauses).WellFormed (Leaf.Keeps discipline)) :
    clauses.disjuncts ≠ [] := by
  unfold disjuncts
  split
  · rename_i disjunctive
    exact (formed.areWellFormed.shaped.isDisjunction disjunctive).nonempty
  · exact List.cons_ne_nil _ _

/-- The alternatives that a well-formed node stands for are well-formed. -/
theorem wellFormed_of_mem_disjuncts
    {node : Node}
    (formed : (Node.clauses clauses).WellFormed (Leaf.Keeps discipline))
    (isDisjunct : node ∈ clauses.disjuncts) :
    node.WellFormed (Leaf.Keeps discipline) := by
  unfold disjuncts at isDisjunct
  split at isDisjunct
  · exact formed.areWellFormed.members .should node isDisjunct
  · rw [List.mem_singleton] at isDisjunct
    exact isDisjunct ▸ formed

/-- A node holds where one of the alternatives does that it stands for. -/
theorem holds_disjuncts (shaped : clauses.IsShaped) :
    (Node.clauses clauses).holds engine document =
      clauses.disjuncts.any (Node.holds engine document) := by
  unfold disjuncts
  split
  · rename_i disjunctive
    exact (shaped.isDisjunction disjunctive).holds
  · simp

section Merging

variable {a b : Clauses Node} {leaf : Leaf}
  (tight : discipline.tight = true)
  (formed : (Node.clauses a).WellFormed (Leaf.Keeps discipline))
include tight formed

/-- The union of clauses and a leaf is right. -/
theorem merges_unionLeaf
    (leafFormed : (Node.leaf leaf).WellFormed (Leaf.Keeps discipline)) :
    MergeOperation.union.Merges discipline (.clauses a) (.leaf leaf)
      (a.unionLeaf leaf) := by
  unfold unionLeaf
  rw [if_neg (Bool.eq_false_iff.mp formed.clauses_isEmpty)]
  split
  · rename_i disjunctive
    refine merges_addDisjuncts tight formed.areWellFormed disjunctive
      (List.cons_ne_nil _ _) ?_ ?_ _
    · simpa using leafFormed
    · simp
  · exact .either formed leafFormed

/-- The union of clauses is right. -/
theorem merges_union
    (otherFormed : (Node.clauses b).WellFormed (Leaf.Keeps discipline)) :
    MergeOperation.union.Merges discipline (.clauses a) (.clauses b)
      (a.union b) := by
  unfold Clauses.union
  rw [if_neg (Bool.eq_false_iff.mp formed.clauses_isEmpty),
    if_neg (Bool.eq_false_iff.mp otherFormed.clauses_isEmpty)]
  split
  · rename_i disjunctive
    exact merges_addDisjuncts tight formed.areWellFormed disjunctive
      (disjuncts_ne_nil otherFormed)
        (fun _ => wellFormed_of_mem_disjuncts otherFormed)
      (fun _ _ => holds_disjuncts otherFormed.areWellFormed.shaped) _
  · split
    · rename_i disjunctive
      refine .symm
        (merges_addDisjuncts tight otherFormed.areWellFormed disjunctive
        (List.cons_ne_nil _ _) ?_ ?_ _)
      · simpa using formed
      · simp
    · exact .either formed otherFormed

end Merging

end Clauses

variable {a b : Node}

/-- The union of well-formed trees is right. -/
theorem Node.merges_union
    (tight : discipline.tight = true)
    (formedA : a.WellFormed (Leaf.Keeps discipline))
    (formedB : b.WellFormed (Leaf.Keeps discipline)) :
    MergeOperation.union.Merges discipline a b (a.union b) := by
  unfold Node.union
  split
  · exact Leaf.merges_union formedA formedB tight
  · split
    · rename_i alike
      exact .of_holds_eq formedA fun engine document fits =>
        holds_eq_of_same formedA formedB fits alike
    · split
      · cases formedA.condition_leaf
      · cases formedB.condition_leaf
      · exact ⟨formedA,
          fun _ _ _ _ => by simp [Leaf.holds, MergeOperation.join]⟩
      · exact ⟨formedB,
          fun _ _ _ _ => by simp [Leaf.holds, MergeOperation.join]⟩
      · exact Clauses.merges_union tight formedA formedB
      · exact Clauses.merges_unionLeaf tight formedA formedB
      · exact .symm (Clauses.merges_unionLeaf tight formedB formedA)
      · exact Leaf.merges_union formedA formedB tight

/-- The union of two well-formed trees, if there is one, holds for the documents
for which one of the trees holds. -/
theorem Node.holds_union
    {merged : Node}
    (tight : discipline.tight = true)
    (separated : discipline.IsSeparated)
    (formedA : a.WellFormed (Leaf.Keeps discipline))
    (formedB : b.WellFormed (Leaf.Keeps discipline))
    (fits : document.Fits discipline.types)
    (success : a.union b = .ok merged) :
    merged.holds engine document =
      (a.holds engine document || b.holds engine document) := by
  have merges := merges_union tight formedA formedB
  rw [success] at merges
  exact merges.holds separated engine document fits

/-- The size three is found by the union of it with the sizes between one and
three, or seven: the range grows to its end. -/
theorem Node.holds_union_sizeIs :
    (Node.either
        (.leaf
          (.range ⟨.ofSize, some ⟨.gt, .int 1⟩, some ⟨.lte, .int 3⟩,
            none, none⟩))
        (.leaf (.sizeIs 7))).holds default (.ofSize 3) =
      ((Node.either (.leaf (.sizeBetween 1 3)) (.leaf (.sizeIs 7))).holds
        default (.ofSize 3) ||
        (Node.leaf (.sizeIs 3)).holds default (.ofSize 3)) := by
  have between :
      (Node.leaf (.sizeBetween 1 3)).WellFormed
        (Leaf.Keeps (.ofIntegers true)) := by
    refine .leaf rfl ⟨rfl, trivial, ⟨by rintro _ ⟨⟩; rfl, by rintro _ ⟨⟩; rfl⟩,
      fun _ => ?_⟩
    with_unfolding_all rfl
  refine holds_union rfl (Discipline.isSeparated_ofIntegers true)
    (wellFormed_either between (Leaf.wellFormed_sizeIs 7 true))
      (Leaf.wellFormed_sizeIs 3 true)
    (StoredDocument.fits_ofSize 3 true) ?_
  with_unfolding_all rfl

end SearchQuery
