import SearchQuery.Proofs.CompiledForm

/-!
# What merges of trees fail for

A merge of trees fails only because a merge of two of their leaves does, or of
leaves that came of those. So if merges of lawful leaves fail for errors of some
sort only, then so do merges of trees in normal form, and so does compilation as
far as it fails for such a merge.
-/

namespace SearchQuery

/-- An outcome is an error only if the error is of a sort. -/
def FailsOnly (sort : Error → Prop) {α : Type} (outcome : Except Error α) :
    Prop :=
  ∀ error, outcome = .error error → sort error

namespace FailsOnly

variable {sort : Error → Prop} {α β : Type} {outcome : Except Error α}

theorem ok (value : α) : FailsOnly sort (.ok value : Except Error α) :=
  fun _ failure => by cases failure

theorem error {error : Error} (isOf : sort error) :
    FailsOnly sort (.error error : Except Error α) := by
  rintro _ ⟨⟩
  exact isOf

/-- A step and what follows on its result fail together for what either of them
fails for. -/
theorem bind
    {continuation : α → Except Error β}
    (first : FailsOnly sort outcome)
    (next : ∀ value, outcome = .ok value →
      FailsOnly sort (continuation value)) :
    FailsOnly sort (outcome >>= continuation) := by
  cases outcome with
  | error cause => exact .error (first cause rfl)
  | ok value => exact next value rfl

theorem map (first : FailsOnly sort outcome) (change : α → β) :
    FailsOnly sort (outcome.map change) := by
  cases outcome with
  | error cause => exact .error (first cause rfl)
  | ok value => exact .ok _

/-- A list is read without errors of other sorts where each of its elements
is. -/
theorem mapM
    {read : α → Except Error β}
    {list : List α}
    (each : ∀ element ∈ list, FailsOnly sort (read element)) :
    FailsOnly sort (list.mapM read) := by
  induction list with
  | nil => exact .ok []
  | cons first rest hypothesis =>
      obtain ⟨eachFirst, eachRest⟩ := List.forall_mem_cons.mp each
      rw [List.mapM_cons]
      exact .bind eachFirst fun _ _ =>
        .bind (hypothesis eachRest) fun _ _ => .ok _

end FailsOnly

variable {law : Leaf → Prop} {sort : Error → Prop}

section Trees

variable (stable : Leaf.IsStable law)
  (merges : ∀ operation (a b : Leaf), (Node.leaf a).IsNormal law →
    (Node.leaf b).IsNormal law →
    FailsOnly sort (Leaf.merge operation a b))
include stable merges

namespace Clauses

variable {clauses other : Clauses Node} {nodes : List Node} {occur : Occur}
  {operation : MergeOperation} {leaf : Leaf}

/-- What absorbing nodes fails for, merges of leaves fail for. -/
theorem failsOnly_absorbAll
    (normal : clauses.AreNormal law)
    (belong : ∀ node ∈ nodes, node.Belongs law occur) :
    FailsOnly sort (clauses.absorbAll occur operation nodes) := by
  intro error refused
  obtain ⟨a, b, belongsA, belongsB, failure, _⟩ :=
    fails_of_absorbAll (stable.preserves operation occur) (normal.members occur)
      normal.shaped
      belong
        (fun node isNode =>
          (belong node isNode).normal.wellFormed.isEmpty_eq_false) refused
  exact merges operation a b belongsA.normal belongsB.normal error failure

theorem failsOnly_addDisjuncts
    (operators : Operators)
    (normal : (Node.clauses clauses).IsNormal law)
    (belong : ∀ node ∈ nodes, node.Belongs law .should) :
    FailsOnly sort (clauses.addDisjuncts nodes operators) :=
  .map (failsOnly_absorbAll stable merges normal.areNormal belong) _

variable (normal : (Node.clauses clauses).IsNormal law)
include normal

/-- What the union of clauses and a leaf fails for, merges of leaves fail
for. -/
theorem failsOnly_unionLeaf (leafNormal : (Node.leaf leaf).IsNormal law) :
    FailsOnly sort (clauses.unionLeaf leaf) := by
  unfold unionLeaf
  rw [if_neg (Bool.eq_false_iff.mp normal.clauses_isEmpty)]
  split
  · exact failsOnly_addDisjuncts stable merges .empty normal
      (List.forall_mem_singleton.mpr (leafNormal.belongs_leaf .should))
  · exact .ok _

theorem failsOnly_interLeaf (leafNormal : (Node.leaf leaf).IsNormal law) :
    FailsOnly sort (clauses.interLeaf leaf) := by
  unfold interLeaf
  rw [if_neg (Bool.eq_false_iff.mp normal.clauses_isEmpty),
    ← absorbAll_singleton]
  exact .map (failsOnly_absorbAll stable merges normal.areNormal
    (List.forall_mem_singleton.mpr (leafNormal.belongs_leaf _))) _

variable (otherNormal : (Node.clauses other).IsNormal law)
include otherNormal

/-- What the union of clauses fails for, merges of leaves fail for. -/
theorem failsOnly_union : FailsOnly sort (clauses.union other) := by
  unfold Clauses.union
  rw [if_neg (Bool.eq_false_iff.mp normal.clauses_isEmpty),
    if_neg (Bool.eq_false_iff.mp otherNormal.clauses_isEmpty)]
  split
  · exact failsOnly_addDisjuncts stable merges _ normal fun _ =>
      belongs_of_mem_disjuncts otherNormal
  · rename_i mixed
    split
    · exact failsOnly_addDisjuncts stable merges _ otherNormal
        (List.forall_mem_singleton.mpr
          (belongs_should normal (Bool.not_eq_true _ ▸ mixed)))
    · exact .ok _

/-- What absorbing the clauses of another node fails for, merges of leaves fail
for. -/
theorem failsOnly_absorbClauses :
    FailsOnly sort (clauses.absorbClauses other) := by
  have members := otherNormal.areNormal.members
  refine .bind
    (failsOnly_absorbAll stable merges normal.areNormal (members .must)) ?_
  intro withMust musts
  have mustNormal :=
    (normal.areNormal.absorbAll stable (members .must)
      (.inl (by decide)) musts).1
  refine .bind (failsOnly_absorbAll stable merges mustNormal (members .filter))
    ?_
  intro withFilter filters
  have filterNormal :=
    (mustNormal.absorbAll stable (members .filter) (.inl (by decide)) filters).1
  exact failsOnly_absorbAll stable merges filterNormal (members .mustNot)

/-- What the intersection of clauses fails for, merges of leaves fail for. -/
theorem failsOnly_inter : FailsOnly sort (clauses.inter other) := by
  unfold Clauses.inter
  rw [if_neg (Bool.eq_false_iff.mp normal.clauses_isEmpty),
    if_neg (Bool.eq_false_iff.mp otherNormal.clauses_isEmpty)]
  split
  · rw [addConjuncts_eq]
    exact .map (failsOnly_absorbClauses stable merges normal otherNormal) _
  · exact .ok _

end Clauses

namespace Node

variable {a b : Node} (normalA : a.IsNormal law) (normalB : b.IsNormal law)
include normalA normalB

/-- What the union of trees fails for, merges of leaves fail for. -/
theorem failsOnly_union : FailsOnly sort (a.union b) := by
  unfold Node.union
  split
  · exact merges .union _ _ normalA normalB
  · split
    · exact .ok _
    · split
      · exact .ok _
      · exact .ok _
      · exact .ok _
      · exact .ok _
      · exact Clauses.failsOnly_union stable merges normalA normalB
      · exact Clauses.failsOnly_unionLeaf stable merges normalA normalB
      · exact Clauses.failsOnly_unionLeaf stable merges normalB normalA
      · exact merges .union _ _ normalA normalB

/-- What the intersection of trees fails for, merges of leaves fail for. -/
theorem failsOnly_inter : FailsOnly sort (a.inter b) := by
  unfold Node.inter
  split
  · exact merges .inter _ _ normalA normalB
  · split
    · exact .ok _
    · split
      · exact .ok _
      · exact .ok _
      · exact .ok _
      · exact .ok _
      · exact Clauses.failsOnly_inter stable merges normalA normalB
      · exact Clauses.failsOnly_interLeaf stable merges normalA normalB
      · exact Clauses.failsOnly_interLeaf stable merges normalB normalA
      · exact merges .inter _ _ normalA normalB

theorem failsOnly_merge (operation : MergeOperation) :
    FailsOnly sort (merge operation a b) := by
  cases operation with
  | union => exact failsOnly_union stable merges normalA normalB
  | inter => exact failsOnly_inter stable merges normalA normalB

omit normalA normalB in
/-- What a merge of any number of trees fails for, merges of leaves fail for, or
there is nothing to merge. -/
theorem failsOnly_mergeAll
    {operation : MergeOperation}
    {nodes : List Node}
    (missing : sort (.missingOperand operation.name))
    (normal : ∀ node ∈ nodes, node.IsNormal law) :
    FailsOnly sort (mergeAll operation nodes) := by
  cases nodes with
  | nil => exact .error missing
  | cons first rest =>
      obtain ⟨firstNormal, restNormal⟩ := List.forall_mem_cons.mp normal
      clear normal
      rw [mergeAll]
      induction rest generalizing first with
      | nil => exact .ok first
      | cons next rest hypothesis =>
          obtain ⟨nextNormal, restNormal⟩ := List.forall_mem_cons.mp restNormal
          rw [List.foldlM_cons]
          refine .bind
            (failsOnly_merge stable merges firstNormal nextNormal operation) ?_
          intro joined success
          exact hypothesis joined
            (isNormal_of_merge stable firstNormal nextNormal success)
            restNormal

end Node

end Trees

section Complements

variable (missing : ∀ operation, sort (.missingOperand operation))
include missing

theorem Leaf.failsOnly_complement (leaf : Leaf) :
    FailsOnly sort leaf.complement := by
  cases leaf with
  | nothing => exact .error (missing _)
  | _ => exact .ok _

/-- There is a complement of clauses unless there are none of them. -/
theorem Clauses.failsOnly_complement (clauses : Clauses Node) :
    FailsOnly sort clauses.complement := by
  unfold Clauses.complement
  split
  · exact .error (missing _)
  · dsimp only
    split
    · split
      · split
        · exact .ok _
        · exact Leaf.failsOnly_complement missing _
      · exact .ok _
    · split
      · exact .ok _
      · exact .ok _
    · split
      · exact .ok _
      · exact .ok _
    · exact .ok _

theorem Node.failsOnly_complement (node : Node) :
    FailsOnly sort node.complement := by
  cases node with
  | leaf content => exact Leaf.failsOnly_complement missing content
  | clauses content => exact Clauses.failsOnly_complement missing content

end Complements

/-- What the compilation of an expression fails for, merges of leaves or
conditions of it fail for, or an operand is missing. -/
theorem Compiler.failsOnly_compile
    {compiler : Compiler}
    {expression : Expr}
    (stable : Leaf.IsStable law)
    (merges : ∀ operation (a b : Leaf), (Node.leaf a).IsNormal law →
      (Node.leaf b).IsNormal law →
      FailsOnly sort (Leaf.merge operation a b))
    (missing : ∀ operation, sort (.missingOperand operation))
    (every : expression.Every fun condition =>
      FailsOnly sort (compiler.compileCondition condition) ∧
        ∀ node, compiler.compileCondition condition = .ok node →
          node.IsNormal law) :
    FailsOnly sort (compiler.compile expression) := by
  have merged : ∀ {operation : MergeOperation} {parts : List Expr},
      (∀ part ∈ parts, part.Every fun condition =>
        ∀ node, compiler.compileCondition condition = .ok node →
          node.IsNormal law) →
      (∀ part ∈ parts, FailsOnly sort (compiler.compile part)) →
        FailsOnly sort
          (compiler.compileAll parts >>= Node.mergeAll operation) := by
    intro operation parts normal each
    rw [compileAll_eq_mapM]
    refine .bind (.mapM each) fun nodes compiles => ?_
    refine Node.failsOnly_mergeAll stable merges (missing _) fun node isNode =>
      ?_
    obtain ⟨part, isPart, success⟩ := exists_mem_of_mapM_eq_ok compiles isNode
    exact isNormal_of_compile stable (normal part isPart) success
  induction every with
  | condition has =>
      rw [compile]
      exact has.1
  | all every hypothesis =>
      rw [compile]
      exact merged (fun part isPart => (every part isPart).mono fun _ =>
        And.right) hypothesis
  | any every hypothesis =>
      rw [compile]
      exact merged (fun part isPart => (every part isPart).mono fun _ =>
        And.right) hypothesis
  | not every hypothesis =>
      rw [compile]
      exact .bind hypothesis fun node _ =>
        Node.failsOnly_complement missing node

end SearchQuery
