import SearchQuery.Regex.Extent

/-!
# Trees of literals

A choice between literals becomes one tree of their bytes, so that literals with
a common start share it. The order of the choice is kept: where a literal ends,
the branches so far are closed, and later literals begin new ones.
-/

namespace SearchQuery
namespace Regex

/-- A place in the tree, with the groups of branches that are closed and the
group that is still open. -/
inductive LiteralTrie
  | node (closed : List (List (Nat × LiteralTrie)))
    (current : List (Nat × LiteralTrie))

namespace LiteralTrie

/-- The tree without literals. -/
def empty : LiteralTrie := .node [] []

/-- Change the branch of a byte, or begin one at its place in the order. -/
def changeBranch (byte : Nat) (change : LiteralTrie → LiteralTrie) :
    List (Nat × LiteralTrie) → List (Nat × LiteralTrie)
  | [] => [(byte, change empty)]
  | branch :: rest =>
      if branch.1 = byte then (byte, change branch.2) :: rest
      else if byte < branch.1 then (byte, change empty) :: branch :: rest
      else branch :: changeBranch byte change rest

/-- Close the open group, because a literal ends here. A place without branches
is closed once. -/
def close : LiteralTrie → LiteralTrie
  | .node closed current =>
      if !closed.isEmpty && closed.all List.isEmpty && current.isEmpty then
        .node closed current
      else .node (closed ++ [current]) []

/-- Add the bytes of a literal. -/
def insert : List Nat → LiteralTrie → LiteralTrie
  | [], tree => tree.close
  | byte :: rest, .node closed current =>
      .node closed (changeBranch byte (insert rest) current)

/-- The tree of a list of literals, in the order of their choice. -/
def ofLiterals (literals : List (List Nat)) : LiteralTrie :=
  literals.foldl (fun tree bytes => insert bytes tree) empty

/-- No branch leaves the place. -/
def isLeaf : LiteralTrie → Bool
  | .node closed current => closed.all List.isEmpty && current.isEmpty

/-- The states for a group of branches, with the link that leads to them. -/
def groupExtent (size : Nat) : Extent :=
  match size with
  | 0 => .zero
  | 1 => (Extent.plain 1).plus (.links 1)
  | size => (Extent.reader size).plus (.links 1)

mutual

/-- The states of the places that are no leaves: each links the groups of its
branches, and the end of a literal where a group is closed. -/
def extent : LiteralTrie → Extent
  | .node closed current =>
      ((Extent.plain 1).plus (.links closed.length)).plus <|
        (groupsExtent closed).plus <|
          (groupExtent current.length).plus (branchesExtent current)

/-- The states of several groups of branches. -/
def groupsExtent : List (List (Nat × LiteralTrie)) → Extent
  | [] => .zero
  | group :: rest =>
      ((groupExtent group.length).plus (branchesExtent group)).plus
        (groupsExtent rest)

/-- The states behind the branches of a group. -/
def branchesExtent : List (Nat × LiteralTrie) → Extent
  | [] => .zero
  | (_, tree) :: rest =>
      (if tree.isLeaf then .zero else tree.extent).plus (branchesExtent rest)

end

end LiteralTrie
end Regex
end SearchQuery
