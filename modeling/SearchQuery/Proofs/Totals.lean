import Mathlib.Algebra.BigOperators.Group.List.Basic
import Mathlib.Algebra.Ring.Nat
import SearchQuery.Proofs.IntersectionLaw
import SearchQuery.Proofs.LeafOutcomes

/-!
# Totals over trees

A measure of leaves is added up over the leaves of a tree. A merge of trees
takes each clause once: it is moved, absorbed by leaves with the same key one
merge after the other, or left where it is. So the total of a merged tree is at
most that of the two trees together wherever this is so for leaves.
-/

namespace SearchQuery

section Total

variable (measure : Leaf → Nat)

mutual

/-- The measures of the leaves of a tree, added up. -/
def Node.total : Node → Nat
  | .leaf content => measure content
  | .clauses ⟨must, filter, should, mustNot, _, _⟩ =>
      totalOfGroups must + totalOfGroups filter + totalOfGroups should +
        totalOfGroups mustNot

/-- The totals of the members of groups, added up. -/
def Node.totalOfGroups : List (Group Node) → Nat
  | [] => 0
  | ⟨_, members⟩ :: rest => totalOfMembers members + totalOfGroups rest

/-- The totals of the members of a group, added up. -/
def Node.totalOfMembers : List Node → Nat
  | [] => 0
  | member :: rest => member.total + totalOfMembers rest

end

/-- The totals of nodes, added up. -/
def Node.totalOf (nodes : List Node) : Nat :=
  (nodes.map (Node.total measure)).sum

/-- The totals of all clauses, added up. -/
def Clauses.total (clauses : Clauses Node) : Nat :=
  Node.totalOf measure (clauses.nodes .must) + Node.totalOf measure
    (clauses.nodes .filter) +
    Node.totalOf measure (clauses.nodes .should) + Node.totalOf measure
      (clauses.nodes .mustNot)

end Total

/-- The outcome measures at most a limit if it is a success. -/
def StaysWithin {α : Type} (measure : α → Nat) (limit : Nat)
    (outcome : Except Error α) : Prop :=
  ∀ result, outcome = .ok result → measure result ≤ limit

namespace StaysWithin

variable {α β : Type} {measure : α → Nat} {limit : Nat} {result : α}

theorem ok (within : measure result ≤ limit) :
    StaysWithin measure limit (.ok result) := by
  rintro _ ⟨⟩
  exact within

theorem error (error : Error) : StaysWithin measure limit (.error error) :=
  fun _ success => by cases success

/-- A result that is given only with equal weights stays within the limit if it
does so in any case. -/
theorem agreed
    {field : String}
    {left right : Binary64}
    (given : StaysWithin measure limit (.ok result)) :
    StaysWithin measure limit (SearchQuery.agreed field left right result) := by
  unfold SearchQuery.agreed agreeOnBoost
  split
  · exact given
  · exact .error _

theorem mono
    {higher : Nat}
    {outcome : Except Error α}
    (within : StaysWithin measure limit outcome)
    (isHigher : limit ≤ higher) :
    StaysWithin measure higher outcome :=
  fun result success => (within result success).trans isHigher

/-- What follows on an outcome stays within the limit if it does so for every
result. -/
theorem bind
    {inner : β → Nat}
    {innerLimit : Nat}
    {outcome : Except Error β}
    {continuation : β → Except Error α}
    (first : StaysWithin inner innerLimit outcome)
    (next : ∀ value, inner value ≤ innerLimit →
      StaysWithin measure limit (continuation value)) :
    StaysWithin measure limit (outcome >>= continuation) := by
  cases outcome with
  | error error => exact .error error
  | ok value => exact next value (first value rfl)

/-- A result that is changed afterwards stays within the limit if this is so for
every result. -/
theorem map
    {inner : β → Nat}
    {innerLimit : Nat}
    {outcome : Except Error β}
    {change : β → α}
    (first : StaysWithin inner innerLimit outcome)
    (next : ∀ value, inner value ≤ innerLimit →
      measure (change value) ≤ limit) :
    StaysWithin measure limit (outcome.map change) := by
  cases outcome with
  | error error => exact .error error
  | ok value => exact .ok (next value (first value rfl))

end StaysWithin

/-- A measure of leaves of which no merge of leaves makes more. Nothing measures
nothing. -/
structure Leaf.IsThrifty (measure : Leaf → Nat) : Prop where
  nothing : measure .nothing = 0
  merge : ∀ (operation : MergeOperation) (a b : Leaf),
    StaysWithin (Node.total measure) (measure a + measure b)
      (Leaf.merge operation a b)

variable {measure : Leaf → Nat}

namespace Node

@[simp] theorem total_leaf (content : Leaf) :
    (Node.leaf content).total measure = measure content := by
  rw [total]

theorem totalOfMembers_eq (members : List Node) :
    totalOfMembers measure members = totalOf measure members := by
  induction members with
  | nil => rfl
  | cons member rest hypothesis =>
      rw [totalOfMembers, hypothesis]
      rfl

@[simp] theorem totalOf_nil : totalOf measure [] = 0 := rfl

@[simp] theorem totalOf_cons (node : Node) (rest : List Node) :
    totalOf measure (node :: rest) =
      node.total measure + totalOf measure rest := rfl

@[simp] theorem totalOf_append (front back : List Node) :
    totalOf measure (front ++ back) =
      totalOf measure front + totalOf measure back := by
  rw [totalOf, List.map_append, List.sum_append]
  rfl

theorem totalOf_perm
    (measure : Leaf → Nat)
    {nodes others : List Node}
    (permutes : nodes.Perm others) :
    totalOf measure nodes = totalOf measure others :=
  (permutes.map (total measure)).sum_eq

theorem totalOfGroups_eq (groups : List (Group Node)) :
    totalOfGroups measure groups = totalOf measure (Bucket.nodes groups) := by
  induction groups with
  | nil => rfl
  | cons group rest hypothesis =>
      have nodes :
          Bucket.nodes (group :: rest) =
            group.members ++ Bucket.nodes rest := rfl
      rw [totalOfGroups, hypothesis, totalOfMembers_eq, nodes, totalOf_append]

@[simp] theorem total_clauses (content : Clauses Node) :
    (Node.clauses content).total measure = content.total measure := by
  obtain ⟨must, filter, should, mustNot, operators, minimumShould⟩ := content
  rw [total]
  simp only [totalOfGroups_eq]
  rfl

end Node

namespace Siblings

open Node (totalOf)

variable {operation : MergeOperation} {members : List Node}
  (thrifty : Leaf.IsThrifty measure)
include thrifty

/-- A collapse adds nothing to the total. -/
theorem Collapses.totalOf_le {front next : Front}
    (collapse : Collapses operation front next) :
    totalOf measure next.nodes ≤ totalOf measure front.nodes := by
  obtain ⟨isMember, merged⟩ := collapse
  rename_i position member result
  obtain ⟨bound, isMember⟩ := List.getElem?_eq_some_iff.mp isMember
  have permutes := List.getElem_cons_eraseIdx_perm bound
  rw [isMember] at permutes
  have total := Node.totalOf_perm measure permutes
  have within := thrifty.merge operation member front.leaf _ merged
  simp only [Front.nodes, Node.totalOf_cons, Node.total_leaf] at total within ⊢
  omega

theorem Run.totalOf_le {front last : Front} (run : Run operation front last) :
    totalOf measure last.nodes ≤ totalOf measure front.nodes := by
  induction run with
  | refl => exact Nat.le_refl _
  | tail _ collapse hypothesis =>
      exact (collapse.totalOf_le thrifty).trans hypothesis

/-- A node adds at most its own total to the members that it is absorbed by. -/
theorem staysWithin_absorb (node : Node) :
    StaysWithin (totalOf measure) (totalOf measure members + node.total measure)
      (absorb operation members node) := by
  intro result absorbed
  cases node with
  | clauses content =>
      cases absorbed
      rw [Node.totalOf_append, Node.totalOf_cons, Node.totalOf_nil,
        Nat.add_zero]
  | leaf leaf =>
      obtain ⟨last, run, _, permutes⟩ :=
        exists_run_of_settle_ok (by simp) absorbed
      rw [Node.totalOf_perm measure permutes, Nat.add_comm]
      exact run.totalOf_le thrifty

end Siblings

namespace Clauses

open Node (totalOf)

variable {clauses other : Clauses Node} {operation : MergeOperation}
  {leaf : Leaf}

/-- The total of clauses after a group is put depends on the members that are
replaced. -/
theorem total_put_add
    (measure : Leaf → Nat)
    (clauses : Clauses Node)
    (occur : Occur)
    (key : MergeKey)
    (members : List Node) :
    (clauses.put occur key members).total measure +
        totalOf measure ((Bucket.find? key (clauses.bucket occur)).getD []) =
      clauses.total measure + totalOf measure members := by
  obtain ⟨rest, before, after⟩ := exists_rest_put clauses occur key members
  have isBefore := Node.totalOf_perm measure before
  have isAfter := Node.totalOf_perm measure after
  rw [Node.totalOf_append] at isBefore isAfter
  have others : ∀ kind, kind ≠ occur →
      totalOf measure ((clauses.put occur key members).nodes kind) =
        totalOf measure (clauses.nodes kind) :=
    fun kind differs =>
      congrArg _ (nodes_put_of_ne clauses occur key members differs)
  unfold total
  cases occur
  · rw [others .filter (by decide), others .should (by decide),
      others .mustNot (by decide)]
    omega
  · rw [others .must (by decide), others .should (by decide),
      others .mustNot (by decide)]
    omega
  · rw [others .must (by decide), others .filter (by decide),
      others .mustNot (by decide)]
    omega
  · rw [others .must (by decide), others .filter (by decide),
      others .should (by decide)]
    omega

theorem totalOf_nodes_le (clauses : Clauses Node) (occur : Occur) :
    totalOf measure (clauses.nodes occur) ≤ clauses.total measure := by
  unfold total
  cases occur <;> omega

/-- The only clause of a node measures no more than the node. -/
theorem total_node_le (clauses : Clauses Node) :
    clauses.node.total measure ≤ clauses.total measure := by
  rw [Clauses.node]
  split
  · rename_i collapses
    obtain ⟨node, equation⟩ :=
      exists_nodes_eq_singleton collapses.1 collapses.2.1
    have total := congrArg (totalOf measure) equation
    simp only [Node.totalOf_append, Node.totalOf_cons, Node.totalOf_nil]
      at total
    rw [equation, List.headD_cons, Clauses.total]
    omega
  · rw [Node.total_clauses]

theorem total_withOperators (clauses : Clauses Node) (operators : Operators) :
    { clauses with operators := operators }.total measure =
      clauses.total measure := rfl

section Nothing

variable (nothing : measure .nothing = 0)
include nothing

/-- A clause that is appended adds its total. -/
theorem total_add (clauses : Clauses Node) (occur : Occur) (node : Node) :
    (clauses.add occur node).total measure =
      clauses.total measure + node.total measure := by
  by_cases stated : node = .leaf .nothing
  · subst stated
    rw [Node.total_leaf, nothing]
    rfl
  · have adds := total_put_add measure clauses occur node.key
      ((Bucket.find? node.key (clauses.bucket occur)).getD [] ++ [node])
    rw [Node.totalOf_append, Node.totalOf_cons, Node.totalOf_nil] at adds
    rw [add_eq_put_of_ne occur stated]
    omega

/-- The total of nodes that are left side by side is that of both. -/
theorem total_apart (operation : MergeOperation) (left right : Node) :
    (operation.apart left right).total measure =
      left.total measure + right.total measure := by
  cases operation with
  | union =>
      have start : disjunction.total measure = 0 := rfl
      rw [MergeOperation.apart, Node.either, Node.total_clauses,
        total_add nothing, total_add nothing, start, Nat.zero_add]
  | inter =>
      have start : conjunction.total measure = 0 := rfl
      rw [MergeOperation.apart, Node.both, Node.total_clauses, addConjunct,
        addConjunct, total_add nothing, total_add nothing, start, Nat.zero_add]

end Nothing

section Thrifty

variable (thrifty : Leaf.IsThrifty measure)
include thrifty

/-- A node adds at most its total to the clauses that absorb it. -/
theorem staysWithin_absorb (clauses : Clauses Node) (occur : Occur)
    (node : Node) :
    StaysWithin (total measure) (clauses.total measure + node.total measure)
      (clauses.absorb occur operation node) := by
  cases condition : node.isEmpty with
  | true =>
      unfold Clauses.absorb
      rw [condition, if_pos rfl]
      exact .ok (Nat.le_add_right _ _)
  | false =>
      rw [absorb_eq_map_put clauses occur operation condition]
      have grown : StaysWithin (totalOf measure)
          (totalOf measure
            ((Bucket.find? node.key (clauses.bucket occur)).getD []) +
            node.total measure) (grownGroup operation
              (clauses.bucket occur) node) := by
        unfold grownGroup
        cases Bucket.find? node.key (clauses.bucket occur) with
        | some members => exact Siblings.staysWithin_absorb thrifty node
        | none => exact .ok (by simp)
      refine grown.map fun members within => ?_
      have adds := total_put_add measure clauses occur node.key members
      omega

/-- Nodes add at most their totals to the clauses that absorb them. -/
theorem staysWithin_absorbAll (clauses : Clauses Node) (occur : Occur)
    (nodes : List Node) :
    StaysWithin (total measure) (clauses.total measure + totalOf measure nodes)
      (clauses.absorbAll occur operation nodes) := by
  induction nodes generalizing clauses with
  | nil => exact .ok (Nat.le_add_right _ _)
  | cons node rest hypothesis =>
      rw [absorbAll, List.foldlM_cons, Node.totalOf_cons, ← Nat.add_assoc]
      refine (staysWithin_absorb thrifty clauses occur node).bind
        fun grown within => ?_
      intro result absorbed
      exact (hypothesis grown result absorbed).trans
        (Nat.add_le_add_right within _)

/-- Alternatives add at most their totals. -/
theorem staysWithin_addDisjuncts
    (clauses : Clauses Node)
    (nodes : List Node)
    (operators : Operators) :
    StaysWithin (Node.total measure)
      (clauses.total measure + totalOf measure nodes)
      (clauses.addDisjuncts nodes operators) :=
  (staysWithin_absorbAll thrifty clauses .should nodes).map fun merged within =>
    (total_node_le _).trans ((total_withOperators merged _).trans_le within)

/-- Clauses that absorb those of another node but its alternatives add at most
the totals of these. -/
theorem staysWithin_absorbClauses (clauses other : Clauses Node) :
    StaysWithin (total measure)
      (clauses.total measure + totalOf measure (other.nodes .must) +
        totalOf measure (other.nodes .filter) + totalOf measure
          (other.nodes .mustNot))
      (clauses.absorbClauses other) := by
  unfold absorbClauses
  refine (staysWithin_absorbAll thrifty clauses .must _).bind
    fun withMust musts => ?_
  refine (staysWithin_absorbAll thrifty withMust .filter _).bind
    fun withFilter filters => ?_
  intro result absorbed
  have within :=
    staysWithin_absorbAll thrifty withFilter .mustNot _ result absorbed
  omega

omit thrifty in
/-- Clauses that take over alternatives add at most the total of these. -/
theorem total_takeAlternatives_le (clauses other : Clauses Node) :
    (clauses.takeAlternatives other).total measure ≤
      clauses.total measure + totalOf measure (other.nodes .should) := by
  unfold takeAlternatives
  split
  · exact Nat.le_add_right _ _
  · change totalOf measure (clauses.nodes .must) + totalOf measure
      (clauses.nodes .filter) +
      totalOf measure (other.nodes .should) + totalOf measure
        (clauses.nodes .mustNot) ≤
        clauses.total measure + totalOf measure (other.nodes .should)
    rw [total]
    omega

/-- The clauses of another node add at most their total. -/
theorem staysWithin_addConjuncts (clauses other : Clauses Node) :
    StaysWithin (Node.total measure)
      (clauses.total measure + other.total measure)
      (clauses.addConjuncts other) := by
  rw [addConjuncts_eq]
  refine (staysWithin_absorbClauses thrifty clauses other).map
    fun merged within => ?_
  refine (total_node_le _).trans ?_
  rw [total_withOperators]
  refine (total_takeAlternatives_le merged other).trans ?_
  have others : other.total measure = totalOf measure (other.nodes .must) +
    totalOf measure (other.nodes .filter) + totalOf measure
      (other.nodes .should) +
    totalOf measure (other.nodes .mustNot) := rfl
  omega

omit thrifty in
theorem totalOf_disjuncts_le (clauses : Clauses Node) :
    totalOf measure clauses.disjuncts ≤ clauses.total measure := by
  unfold disjuncts
  split
  · exact totalOf_nodes_le clauses .should
  · simp

/-- The union of clauses and a leaf measures no more than both. -/
theorem staysWithin_unionLeaf (clauses : Clauses Node) (leaf : Leaf) :
    StaysWithin (Node.total measure) (clauses.total measure + measure leaf)
      (clauses.unionLeaf leaf) := by
  unfold unionLeaf
  split
  · exact .ok ((Node.total_leaf leaf).trans_le (Nat.le_add_left _ _))
  · split
    · have added := staysWithin_addDisjuncts thrifty clauses [.leaf leaf] .empty
      rwa [Node.totalOf_cons, Node.total_leaf] at added
    · have apart := total_apart thrifty.nothing .union (.clauses clauses)
        (.leaf leaf)
      rw [Node.total_clauses, Node.total_leaf] at apart
      exact .ok apart.le

/-- The intersection of clauses and a leaf measures no more than both. -/
theorem staysWithin_interLeaf (clauses : Clauses Node) (leaf : Leaf) :
    StaysWithin (Node.total measure) (clauses.total measure + measure leaf)
      (clauses.interLeaf leaf) := by
  unfold interLeaf
  split
  · exact .ok ((Node.total_leaf leaf).trans_le (Nat.le_add_left _ _))
  · refine (staysWithin_absorb thrifty clauses _ (.leaf leaf)).map
      fun merged within => ?_
    rw [Node.total_leaf] at within
    exact (total_node_le merged).trans within

/-- The union of clauses measures no more than both. -/
theorem staysWithin_union (a b : Clauses Node) :
    StaysWithin (Node.total measure) (a.total measure + b.total measure)
      (a.union b) := by
  unfold Clauses.union
  split
  · exact .ok ((Node.total_clauses b).trans_le (Nat.le_add_left _ _))
  · split
    · exact .ok ((Node.total_clauses a).trans_le (Nat.le_add_right _ _))
    · split
      · intro result success
        have added :=
          staysWithin_addDisjuncts thrifty a b.disjuncts b.operators
            result success
        exact added.trans (Nat.add_le_add_left (totalOf_disjuncts_le b) _)
      · split
        · have added := staysWithin_addDisjuncts thrifty b
            [.clauses a] a.operators
          rwa [Node.totalOf_cons, Node.total_clauses, Nat.add_comm] at added
        · have apart := total_apart thrifty.nothing .union (.clauses a)
            (.clauses b)
          rw [Node.total_clauses, Node.total_clauses] at apart
          exact .ok apart.le

/-- The intersection of clauses measures no more than both. -/
theorem staysWithin_inter (a b : Clauses Node) :
    StaysWithin (Node.total measure) (a.total measure + b.total measure)
      (a.inter b) := by
  unfold Clauses.inter
  split
  · exact .ok ((Node.total_clauses b).trans_le (Nat.le_add_left _ _))
  · split
    · exact .ok ((Node.total_clauses a).trans_le (Nat.le_add_right _ _))
    · split
      · exact staysWithin_addConjuncts thrifty a b
      · have apart := total_apart thrifty.nothing .inter (.clauses a)
          (.clauses b)
        rw [Node.total_clauses, Node.total_clauses] at apart
        exact .ok apart.le

end Thrifty

end Clauses

namespace Node

variable (thrifty : Leaf.IsThrifty measure)
include thrifty

/-- The union of trees measures no more than both. -/
theorem staysWithin_union (a b : Node) :
    StaysWithin (total measure) (a.total measure + b.total measure)
      (a.union b) := by
  have first :
      StaysWithin (total measure) (a.total measure + b.total measure) (.ok a) :=
    .ok (Nat.le_add_right _ _)
  have second :
      StaysWithin (total measure) (a.total measure + b.total measure) (.ok b) :=
    .ok (Nat.le_add_left _ _)
  unfold Node.union
  split
  · rw [total_leaf, total_leaf]
    exact thrifty.merge .union _ _
  · split
    · exact first
    · split
      · exact second
      · exact first
      · exact first
      · exact second
      · simpa using Clauses.staysWithin_union thrifty _ _
      · simpa using Clauses.staysWithin_unionLeaf thrifty _ _
      · simpa [Nat.add_comm] using Clauses.staysWithin_unionLeaf thrifty _ _
      · rw [total_leaf, total_leaf]
        exact thrifty.merge .union _ _

/-- The intersection of trees measures no more than both. -/
theorem staysWithin_inter (a b : Node) :
    StaysWithin (total measure) (a.total measure + b.total measure)
      (a.inter b) := by
  have first :
      StaysWithin (total measure) (a.total measure + b.total measure) (.ok a) :=
    .ok (Nat.le_add_right _ _)
  have second :
      StaysWithin (total measure) (a.total measure + b.total measure) (.ok b) :=
    .ok (Nat.le_add_left _ _)
  unfold Node.inter
  split
  · rw [total_leaf, total_leaf]
    exact thrifty.merge .inter _ _
  · split
    · exact first
    · split
      · exact second
      · exact first
      · exact second
      · exact first
      · simpa using Clauses.staysWithin_inter thrifty _ _
      · simpa using Clauses.staysWithin_interLeaf thrifty _ _
      · simpa [Nat.add_comm] using Clauses.staysWithin_interLeaf thrifty _ _
      · rw [total_leaf, total_leaf]
        exact thrifty.merge .inter _ _

theorem staysWithin_merge (operation : MergeOperation) (a b : Node) :
    StaysWithin (total measure) (a.total measure + b.total measure)
      (merge operation a b) := by
  cases operation with
  | union => exact staysWithin_union thrifty a b
  | inter => exact staysWithin_inter thrifty a b

end Node
end SearchQuery
