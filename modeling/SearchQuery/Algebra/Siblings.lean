import SearchQuery.Algebra.Leaves

/-!
# Merging into siblings

A leaf that comes into a group is merged with the members from left to right.
Where a merge collapses to one leaf, that leaf is merged with the members that
remain, until nothing collapses any more. It then stands where the first of the
collapsed members stood. Nodes with clauses of their own are never merged with.
-/

namespace SearchQuery
namespace Siblings

/-- What one pass over the members finds: no member to merge with, a member that
collapses with the leaf, members that stay apart from it, or only failures, of
which the last one counts. -/
inductive Sweep
  | untried
  | collapsed (position : Nat) (result : Leaf)
  | apart
  | refused (error : Error)

/-- Merge a leaf with the members in order, up to the first that collapses with
it. -/
def sweep (operation : MergeOperation) (leaf : Leaf) : List Node → Sweep
  | [] => .untried
  | .clauses _ :: rest =>
      match sweep operation leaf rest with
      | .collapsed position result => .collapsed (position + 1) result
      | other => other
  | .leaf member :: rest =>
      match Leaf.merge operation member leaf with
      | .ok (.leaf result) => .collapsed 0 result
      | .ok (.clauses _) =>
          match sweep operation leaf rest with
          | .collapsed position result => .collapsed (position + 1) result
          | _ => .apart
      | .error error =>
          match sweep operation leaf rest with
          | .collapsed position result => .collapsed (position + 1) result
          | .untried => .refused error
          | other => other

/-- The member that collapsed was one of the members. -/
theorem sweep_position_lt {operation : MergeOperation} {leaf result : Leaf}
    {members : List Node} {position : Nat}
    (collapse : sweep operation leaf members = .collapsed position result) :
    position < members.length := by
  induction members generalizing position with
  | nil => simp [sweep] at collapse
  | cons member rest hypothesis =>
      cases member with
      | clauses content =>
          simp only [sweep] at collapse
          split at collapse
          · rename_i inner _ equation
            cases collapse
            have := hypothesis equation
            simp only [List.length_cons]
            omega
          · rename_i other
            exact absurd collapse (other _ _)
      | leaf content =>
          simp only [sweep] at collapse
          split at collapse
          · cases collapse
            simp
          · split at collapse
            · rename_i inner _ equation
              cases collapse
              have := hypothesis equation
              simp only [List.length_cons]
              omega
            · cases collapse
          · split at collapse
            · rename_i inner _ equation
              cases collapse
              have := hypothesis equation
              simp only [List.length_cons]
              omega
            · cases collapse
            · rename_i other _
              exact absurd collapse (other _ _)

/-- The place that a leaf gets: the first of the places it has collapsed with,
or the end. -/
def place (members : List Node) (leaf : Leaf) : Option Nat → List Node
  | some position => members.insertIdx position (.leaf leaf)
  | none => members ++ [.leaf leaf]

/-- Merge a leaf into the members, where it has already collapsed with members
of which `slot` was the first. -/
def settle (operation : MergeOperation) (members : List Node) (leaf : Leaf)
    (slot : Option Nat) : Except Error (List Node) :=
  match _collapse : sweep operation leaf members with
  | .collapsed position result =>
      settle operation (members.eraseIdx position) result
        (some (slot.elim position (min position)))
  | .refused error => .error error
  | .untried | .apart => .ok (place members leaf slot)
termination_by members.length
decreasing_by
  have := sweep_position_lt _collapse
  rw [List.length_eraseIdx]
  split <;> omega

/-- Put a node into a group. A leaf that every member refuses is refused, with
the members left as they were. -/
def absorb (operation : MergeOperation) (members : List Node) :
    Node → Except Error (List Node)
  | .clauses content => .ok (members ++ [.clauses content])
  | .leaf content => settle operation members content none

/-- Put nodes into an empty group one after the other. -/
def absorbAll (operation : MergeOperation) (nodes : List Node) :
    Except Error (List Node) :=
  nodes.foldlM (absorb operation) []

end Siblings
end SearchQuery
