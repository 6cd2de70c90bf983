import SearchQuery.Proofs.IntersectionLaw
import SearchQuery.Proofs.UnionLaw

/-!
# Merging any number of trees

Where ranges leave a place for a value, merges of well-formed trees are right,
and so are merges of any number of them from the left.
-/

namespace SearchQuery

/-- A node is well-formed and holds where the verdicts on some nodes are joined,
provided that the discipline is separated. -/
structure Node.IsJoinAll (node : Node) (discipline : Discipline)
    (operation : MergeOperation)
    (nodes : List Node) : Prop where
  formed : node.WellFormed (Leaf.Keeps discipline)
  holds : discipline.IsSeparated → ∀ engine document,
    document.Fits discipline.types →
    node.holds engine document =
      operation.joinAll (nodes.map (Node.holds engine document))

variable {discipline : Discipline} {operation : MergeOperation}
  (tight : discipline.tight = true)
include tight

namespace Node

/-- Where all ranges leave a place for a value, those do that must not hold. -/
theorem WellFormed.excludesTightly
    {node : Node}
    (formed : node.WellFormed (Leaf.Keeps discipline)) :
    node.ExcludesTightly := by
  rintro content rfl member isMember range rfl
  have keeps : range.Keeps discipline :=
    (formed.areWellFormed.members .mustNot _ isMember).lawful_leaf
  exact keeps.nonempty tight

/-- Merges of well-formed trees are right. -/
theorem merges_merge
    {a b : Node}
    (formedA : a.WellFormed (Leaf.Keeps discipline))
    (formedB : b.WellFormed (Leaf.Keeps discipline)) :
    operation.Merges discipline a b (merge operation a b) := by
  cases operation with
  | union => exact merges_union tight formedA formedB
  | inter =>
      exact merges_inter formedA formedB (formedA.excludesTightly tight)
        (formedB.excludesTightly tight)

/-- Merging trees into a tree one after the other joins the verdicts. -/
theorem isJoinAll_of_foldlM
    {node merged : Node}
    {nodes : List Node}
    (formed : node.WellFormed (Leaf.Keeps discipline))
    (nodesFormed : ∀ node ∈ nodes, node.WellFormed (Leaf.Keeps discipline))
    (success : nodes.foldlM (merge operation) node = .ok merged) :
    merged.IsJoinAll discipline operation (node :: nodes) := by
  induction nodes generalizing node with
  | nil =>
      cases success
      refine ⟨formed, fun _ engine document _ => ?_⟩
      rw [List.map_cons, operation.joinAll_cons]
      exact (operation.join_joinAll_nil _).symm
  | cons next rest hypothesis =>
      obtain ⟨nextFormed, restFormed⟩ := List.forall_mem_cons.mp nodesFormed
      rw [List.foldlM_cons] at success
      have merges : operation.Merges discipline node next _ :=
        merges_merge tight formed nextFormed
      cases first : merge operation node next with
      | error error =>
          rw [first] at success
          cases success
      | ok joined =>
          rw [first] at success merges
          have join : joined.IsJoin discipline operation node next := merges
          have joinAll := hypothesis join.formed restFormed success
          refine ⟨joinAll.formed, fun separated engine document fits => ?_⟩
          rw [joinAll.holds separated engine document fits, List.map_cons,
            List.map_cons, List.map_cons, operation.joinAll_cons,
            operation.joinAll_cons, operation.joinAll_cons,
            join.holds separated engine document fits, operation.join_assoc]

/-- Merging any number of trees joins the verdicts. -/
theorem isJoinAll_of_mergeAll
    {merged : Node}
    {nodes : List Node}
    (nodesFormed : ∀ node ∈ nodes, node.WellFormed (Leaf.Keeps discipline))
    (success : mergeAll operation nodes = .ok merged) :
    merged.IsJoinAll discipline operation nodes := by
  cases nodes with
  | nil => cases success
  | cons node rest =>
      obtain ⟨formed, restFormed⟩ := List.forall_mem_cons.mp nodesFormed
      exact isJoinAll_of_foldlM tight formed restFormed success

end Node
end SearchQuery
