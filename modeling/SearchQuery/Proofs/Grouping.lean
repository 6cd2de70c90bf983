import SearchQuery.Proofs.Conditions
import SearchQuery.Proofs.LeafOutcomes

/-!
# Groups of clauses

Trees are built from leaves: clauses are started and extended, trees are merged
and turned into their complements. In every tree that is built so, a group has
members with its key, a member states a condition, the operators tell of the
clauses that there are, and alternatives ask for one of them.
-/

namespace SearchQuery

namespace Operators

variable {operators other more : Operators}

/-- The operators of one side are among those of the other. -/
def Include (operators other : Operators) : Prop :=
  operators.union other = operators

theorem include_union (operators other : Operators) :
    (operators.union other).Include other := by
  simp [Include, union]

theorem Include.union (included : operators.Include other) (more : Operators) :
    (operators.union more).Include other := by
  simp only [Include, Operators.union] at included ⊢
  rw [← included]
  simp [Bool.or_left_comm, Bool.or_comm]

theorem Include.of_union (included : more.Include other)
    (operators : Operators) :
    (operators.union more).Include other := by
  simp only [Include, Operators.union] at included ⊢
  rw [← included]
  simp [Bool.or_assoc]

end Operators

namespace Clauses

variable {α : Type}

/-- The operators tell of every kind of clauses that is there. -/
def AreMarked (clauses : Clauses α) : Prop :=
  ∀ occur, clauses.bucket occur ≠ [] →
    clauses.operators.Include (.ofOccur occur)

/-- Putting a group notes the operator of its kind. -/
theorem operators_put
    (clauses : Clauses α)
    (occur : Occur)
    (key : MergeKey)
    (members : List α) :
    (clauses.put occur key members).operators =
      clauses.operators.union (.ofOccur occur) := by
  cases occur <;> rfl

/-- Putting a group keeps the operators telling of every kind. -/
theorem AreMarked.put
    {clauses : Clauses α}
    (marked : clauses.AreMarked)
    (occur : Occur)
    (key : MergeKey)
    (members : List α) :
    (clauses.put occur key members).AreMarked := by
  intro other isThere
  rw [operators_put]
  by_cases same : other = occur
  · subst same
    exact Operators.include_union _ _
  · rw [bucket_put_of_ne _ _ _ _ same] at isThere
    exact (marked other isThere).union _

end Clauses

/-- Every group of a tree has members with its key that state a condition, the
operators tell of the clauses that there are, and alternatives ask for at least
one of them. -/
inductive Node.IsGrouped : Node → Prop
  | leaf {content : Leaf} (filled : content.IsFilled) :
    IsGrouped (.leaf content)
  | clauses {content : Clauses Node} (shaped : content.IsShaped)
    (marked : content.AreMarked)
      (keyed : ∀ occur, ∀ group ∈ content.bucket occur, ∀ node ∈ group.members,
        node.key = group.key)
      (stated : ∀ occur, ∀ group ∈ content.bucket occur, ∀ node ∈ group.members,
        node ≠ .leaf .nothing)
      (members : ∀ occur, ∀ group ∈ content.bucket occur,
        ∀ node ∈ group.members,
        IsGrouped node) :
      IsGrouped (.clauses content)

/-- A node may be a member of the group of a key. -/
structure Node.IsMember (key : MergeKey) (node : Node) : Prop where
  grouped : node.IsGrouped
  keyed : node.key = key
  stated : node ≠ .leaf .nothing

/-- Clauses have the groups that a grouped tree has. -/
structure Clauses.AreGrouped (clauses : Clauses Node) : Prop where
  shaped : clauses.IsShaped
  marked : clauses.AreMarked
  members : ∀ occur, ∀ group ∈ clauses.bucket occur, ∀ node ∈ group.members,
    node.IsMember group.key

/-- The clauses of a grouped tree are grouped. -/
theorem Node.IsGrouped.areGrouped
    {clauses : Clauses Node}
    (grouped : (Node.clauses clauses).IsGrouped) :
    clauses.AreGrouped := by
  cases grouped with
  | clauses shaped marked keyed stated members =>
      exact ⟨shaped, marked, fun occur group isGroup node isNode =>
        ⟨members occur group isGroup node isNode,
          keyed occur group isGroup node isNode,
          stated occur group isGroup node isNode⟩⟩

theorem Node.IsGrouped.isFilled {leaf : Leaf}
    (grouped : (Node.leaf leaf).IsGrouped) :
    leaf.IsFilled := by
  cases grouped with
  | leaf filled => exact filled

namespace Clauses

variable {clauses other result : Clauses Node} {node : Node} {nodes : List Node}
  {operation : MergeOperation}

namespace AreGrouped

/-- Grouped clauses make a grouped tree. -/
theorem isGrouped (grouped : clauses.AreGrouped) :
    (Node.clauses clauses).IsGrouped :=
  .clauses grouped.shaped grouped.marked
    (fun occur group isGroup node isNode =>
      (grouped.members occur group isGroup node isNode).keyed)
    (fun occur group isGroup node isNode =>
      (grouped.members occur group isGroup node isNode).stated)
    (fun occur group isGroup node isNode =>
      (grouped.members occur group isGroup node isNode).grouped)

theorem isGrouped_of_mem
    {occur : Occur}
    (grouped : clauses.AreGrouped)
    (isMember : node ∈ clauses.nodes occur) :
    node.IsGrouped := by
  obtain ⟨group, isGroup, isNode⟩ := List.mem_flatMap.mp isMember
  exact (grouped.members occur group isGroup node isNode).grouped

/-- The members that are found for a key are members of its group. -/
theorem isMember_of_find?
    {key : MergeKey}
    {occur : Occur}
    (grouped : clauses.AreGrouped)
    (isFound : node ∈ (Bucket.find? key (clauses.bucket occur)).getD []) :
    node.IsMember key := by
  cases found : Bucket.find? key (clauses.bucket occur) with
  | none =>
      rw [found] at isFound
      cases isFound
  | some members =>
      rw [found] at isFound
      exact grouped.members occur _ (Bucket.mem_of_find?_eq_some found)
        node isFound

/-- Putting a group of members keeps clauses grouped. -/
theorem put
    {key : MergeKey}
    (grouped : clauses.AreGrouped)
    (occur : Occur)
    (nonempty : nodes ≠ [])
    (members : ∀ node ∈ nodes, node.IsMember key) :
    (clauses.put occur key nodes).AreGrouped where
  shaped := grouped.shaped.put occur key nonempty
  marked := grouped.marked.put occur key nodes
  members other group isGroup := by
    by_cases same : other = occur
    · subst same
      rw [bucket_put_self] at isGroup
      rcases Bucket.eq_or_mem_of_mem_set key isGroup with rfl | earlier
      · exact members
      · exact grouped.members other group earlier
    · rw [bucket_put_of_ne _ _ _ _ same] at isGroup
      exact grouped.members other group isGroup

end AreGrouped

theorem areGrouped_of_empty (empty : ∀ occur, clauses.bucket occur = []) :
    clauses.AreGrouped where
  shaped := isShaped_of_empty empty
  marked occur isThere := absurd (empty occur) isThere
  members occur group isGroup := by
    rw [empty occur] at isGroup
    cases isGroup

namespace AreGrouped

/-- Appending a grouped node keeps clauses grouped. -/
theorem add
    (grouped : clauses.AreGrouped)
    (occur : Occur)
    (nodeGrouped : node.IsGrouped) :
    (clauses.add occur node).AreGrouped := by
  by_cases stated : node = .leaf .nothing
  · subst stated
    exact grouped
  · rw [add_eq_put_of_ne occur stated]
    refine grouped.put occur (by simp) fun member isMember => ?_
    rcases List.mem_append.mp isMember with earlier | added
    · exact grouped.isMember_of_find? earlier
    · rw [List.mem_singleton.mp added]
      exact ⟨nodeGrouped, rfl, stated⟩

/-- Appending grouped nodes in turn keeps clauses grouped. -/
theorem addAll
    (grouped : clauses.AreGrouped)
    (occur : Occur)
    (nodesGrouped : ∀ node ∈ nodes, node.IsGrouped) :
    (clauses.addAll occur nodes).AreGrouped := by
  induction nodes generalizing clauses with
  | nil => exact grouped
  | cons node rest hypothesis =>
      obtain ⟨nodeGrouped, restGrouped⟩ := List.forall_mem_cons.mp nodesGrouped
      exact hypothesis (grouped.add occur nodeGrouped) restGrouped

end AreGrouped

end Clauses

namespace Node

variable {left right node : Node} {nodes : List Node}

theorem isGrouped_disjunction (grouped : ∀ node ∈ nodes, node.IsGrouped) :
    (Node.clauses (Clauses.disjunction.addAll .should nodes)).IsGrouped := by
  have start : (Clauses.disjunction (α := Node)).AreGrouped :=
    Clauses.areGrouped_of_empty fun occur => by cases occur <;> rfl
  exact (start.addAll .should grouped).isGrouped

theorem isGrouped_negation (grouped : ∀ node ∈ nodes, node.IsGrouped) :
    (Node.clauses (Clauses.negation.addAll .mustNot nodes)).IsGrouped := by
  have start : (Clauses.negation (α := Node)).AreGrouped :=
    Clauses.areGrouped_of_empty fun occur => by cases occur <;> rfl
  exact (start.addAll .mustNot grouped).isGrouped

theorem isGrouped_negated (grouped : node.IsGrouped) : node.negated.IsGrouped :=
  isGrouped_negation (List.forall_mem_singleton.mpr grouped)

/-- Two grouped nodes side by side are grouped. -/
theorem isGrouped_apart
    (operation : MergeOperation)
    (leftGrouped : left.IsGrouped)
    (rightGrouped : right.IsGrouped) :
    (operation.apart left right).IsGrouped := by
  cases operation with
  | union =>
      have grouped : ∀ node ∈ [left, right], node.IsGrouped := by
        simp [leftGrouped, rightGrouped]
      exact isGrouped_disjunction grouped
  | inter =>
      have start : (Clauses.conjunction (α := Node)).AreGrouped :=
        Clauses.areGrouped_of_empty fun occur => by cases occur <;> rfl
      exact ((start.add _ leftGrouped).add _ rightGrouped).isGrouped

end Node

/-- What is merged from two filled leaves to one leaf is akin to one of them. -/
theorem Leaf.isAkin_of_merge_eq_leaf
    {operation : MergeOperation}
    {a b result : Leaf}
    (filledA : a.IsFilled)
    (filledB : b.IsFilled)
    (success : merge operation a b = .ok (.leaf result)) :
    a.IsAkin result ∨ b.IsAkin result := by
  have outcome := outcome_merge operation a b
  generalize merge operation a b = merged at outcome success
  cases outcome with
  | single recast =>
      cases success
      exact recast.imp (·.isAkin filledA) (·.isAkin filledB)
  | apart => cases operation <;> cases success
  | _ => cases success

/-- Merges of leaves in a group give members of the group. -/
theorem preserves_isMember (operation : MergeOperation) (key : MergeKey) :
    Siblings.Preserves operation (Node.IsMember key) fun _ => true := by
  intro a b merged memberA memberB success
  refine ⟨?_, by cases operation <;> rfl⟩
  have akin := Leaf.isAkin_of_merge_eq_leaf memberA.grouped.isFilled
    memberB.grouped.isFilled
    success
  have member : ∀ leaf : Leaf, (Node.leaf leaf).IsMember key →
      leaf.IsAkin merged →
      (Node.leaf merged).IsMember key := by
    intro leaf isMember akin
    refine ⟨.leaf akin.filled, ?_, ?_⟩
    · rw [Node.key, akin.key]
      exact isMember.keyed
    · rintro ⟨rfl⟩
      apply isMember.stated
      cases leaf with
      | nothing => rfl
      | _ => cases akin.isNothing
  exact akin.elim (member a memberA) (member b memberB)

/-- What filled leaves merge to is grouped. -/
theorem Leaf.isGrouped_of_merge_eq_ok
    (operation : MergeOperation)
    {a b : Leaf}
    {node : Node}
    (filledA : a.IsFilled)
    (filledB : b.IsFilled)
    (success : merge operation a b = .ok node) :
    node.IsGrouped := by
  have outcome := outcome_merge operation a b
  rw [success] at outcome
  have grouped : ∀ {result : Leaf}, a.Recasts result ∨ b.Recasts result →
      (Node.leaf result).IsGrouped := fun recast =>
    .leaf (recast.elim (fun first => (first.isAkin filledA).filled)
      fun second => (second.isAkin filledB).filled)
  cases outcome with
  | single recast => exact grouped recast
  | apart recastLeft recastRight =>
      exact Node.isGrouped_apart operation (grouped recastLeft)
        (grouped recastRight)

/-- The complement of a filled leaf is grouped. -/
theorem Leaf.isGrouped_of_complement_eq_ok
    {leaf : Leaf}
    {node : Node}
    (filled : leaf.IsFilled)
    (success : leaf.complement = .ok node) :
    node.IsGrouped := by
  have grouped : ∀ {result : Leaf}, leaf.Recasts result →
      (Node.leaf result).IsGrouped :=
    fun recast => .leaf (recast.isAkin filled).filled
  cases turnsInto_of_complement success with
  | single recast => exact grouped recast
  | either recastLeft recastRight =>
      exact Node.isGrouped_apart .union (grouped recastLeft)
        (grouped recastRight)
  | negation nonempty turned =>
      refine Node.isGrouped_negation fun node isNode => ?_
      obtain ⟨result, isResult, rfl⟩ := List.mem_map.mp isNode
      rcases turned with recasts | ⟨range, _, rfl⟩
      · exact grouped (recasts result isResult)
      · rw [List.mem_singleton.mp isResult]
        exact .leaf (isFilled_of_ne fun _ => Leaf.noConfusion)

namespace Clauses

variable {clauses other result : Clauses Node} {member : Node}
  {nodes : List Node}
  {operation : MergeOperation} {occur : Occur} {leaf : Leaf}

namespace AreGrouped

/-- Absorbing a grouped node keeps clauses grouped. -/
theorem absorb
    (grouped : clauses.AreGrouped)
    (memberGrouped : member.IsGrouped)
    (absorbed : clauses.absorb occur operation member = .ok result) :
    result.AreGrouped := by
  cases condition : member.isEmpty with
  | true =>
      unfold Clauses.absorb at absorbed
      rw [condition, if_pos rfl] at absorbed
      cases absorbed
      exact grouped
  | false =>
      have isMember : member.IsMember member.key := by
        refine ⟨memberGrouped, rfl, ?_⟩
        rintro rfl
        cases condition
      obtain ⟨grown, grows, rfl⟩ := exists_put_of_absorb condition absorbed
      obtain ⟨nonempty, members, _⟩ := grownGroup_ok
        (preserves_isMember operation member.key)
        (fun _ => grouped.isMember_of_find?) isMember grows
      exact grouped.put occur nonempty members

/-- Absorbing grouped nodes in turn keeps clauses grouped. -/
theorem absorbAll
    (grouped : clauses.AreGrouped)
    (nodesGrouped : ∀ node ∈ nodes, node.IsGrouped)
    (absorbed : clauses.absorbAll occur operation nodes = .ok result) :
    result.AreGrouped := by
  induction nodes generalizing clauses with
  | nil =>
      cases absorbed
      exact grouped
  | cons node rest hypothesis =>
      obtain ⟨nodeGrouped, restGrouped⟩ := List.forall_mem_cons.mp nodesGrouped
      rw [Clauses.absorbAll, List.foldlM_cons] at absorbed
      cases first : clauses.absorb occur operation node with
      | error error =>
          rw [first] at absorbed
          cases absorbed
      | ok next =>
          rw [first] at absorbed
          exact hypothesis (grouped.absorb nodeGrouped first)
            restGrouped absorbed

/-- Clauses that come from more operators are still grouped. -/
theorem withOperators (grouped : clauses.AreGrouped) (operators : Operators) :
    { clauses with operators :=
      clauses.operators.union operators }.AreGrouped where
  shaped := grouped.shaped.withOperators _
  marked occur := by
    cases occur
    · exact fun isThere => (grouped.marked .must isThere).union operators
    · exact fun isThere => (grouped.marked .filter isThere).union operators
    · exact fun isThere => (grouped.marked .should isThere).union operators
    · exact fun isThere => (grouped.marked .mustNot isThere).union operators
  members occur := by
    cases occur
    · exact grouped.members .must
    · exact grouped.members .filter
    · exact grouped.members .should
    · exact grouped.members .mustNot

/-- Clauses that take over the alternatives of others together with their
operators are grouped. -/
theorem takeAlternatives (grouped : clauses.AreGrouped)
    (otherGrouped : other.AreGrouped) :
    { clauses.takeAlternatives other with
      operators :=
        (clauses.takeAlternatives
          other).operators.union other.operators }.AreGrouped := by
  unfold Clauses.takeAlternatives
  split
  · exact grouped.withOperators other.operators
  · constructor
    · refine ⟨?_, ?_, fun _ => Nat.le_max_right _ _⟩
      · intro occur
        cases occur
        · exact grouped.shaped.keys .must
        · exact grouped.shaped.keys .filter
        · exact otherGrouped.shaped.keys .should
        · exact grouped.shaped.keys .mustNot
      · intro occur
        cases occur
        · exact grouped.shaped.members .must
        · exact grouped.shaped.members .filter
        · exact otherGrouped.shaped.members .should
        · exact grouped.shaped.members .mustNot
    · intro occur
      cases occur
      · exact fun isThere =>
          (grouped.marked .must isThere).union other.operators
      · exact fun isThere =>
          (grouped.marked .filter isThere).union other.operators
      · exact fun isThere =>
          (otherGrouped.marked .should isThere).of_union clauses.operators
      · exact fun isThere =>
          (grouped.marked .mustNot isThere).union other.operators
    · intro occur
      cases occur
      · exact grouped.members .must
      · exact grouped.members .filter
      · exact otherGrouped.members .should
      · exact grouped.members .mustNot

theorem node (grouped : clauses.AreGrouped) : clauses.node.IsGrouped := by
  rcases clauses.node_eq_clauses_or_exists_mem with stays | ⟨occur, isMember⟩
  · exact stays ▸ grouped.isGrouped
  · exact grouped.isGrouped_of_mem isMember

/-- The alternatives that grouped clauses stand for are grouped. -/
theorem isGrouped_of_mem_disjuncts
    (grouped : clauses.AreGrouped)
    (isDisjunct : member ∈ clauses.disjuncts) :
    member.IsGrouped := by
  unfold disjuncts at isDisjunct
  split at isDisjunct
  · exact grouped.isGrouped_of_mem isDisjunct
  · rw [List.mem_singleton.mp isDisjunct]
    exact grouped.isGrouped

end AreGrouped

section Merging

variable {merged : Node} (grouped : clauses.AreGrouped)
include grouped

/-- Adding grouped alternatives gives a grouped tree. -/
theorem isGrouped_of_addDisjuncts
    {operators : Operators}
    (nodesGrouped : ∀ node ∈ nodes, node.IsGrouped)
    (success : clauses.addDisjuncts nodes operators = .ok merged) :
    merged.IsGrouped := by
  unfold addDisjuncts at success
  cases absorbed : clauses.absorbAll .should .union nodes with
  | error error =>
      rw [absorbed] at success
      cases success
  | ok result =>
      rw [absorbed] at success
      cases success
      exact ((grouped.absorbAll nodesGrouped
        absorbed).withOperators operators).node

/-- The union of grouped clauses and a filled leaf is grouped. -/
theorem isGrouped_of_unionLeaf
    (filled : leaf.IsFilled)
    (success : clauses.unionLeaf leaf = .ok merged) :
    merged.IsGrouped := by
  have leafGrouped : (Node.leaf leaf).IsGrouped := .leaf filled
  unfold unionLeaf at success
  split at success
  · cases success
    exact leafGrouped
  · split at success
    · exact isGrouped_of_addDisjuncts grouped
        (by simpa using leafGrouped) success
    · cases success
      exact Node.isGrouped_apart .union grouped.isGrouped leafGrouped

/-- The intersection of grouped clauses and a filled leaf is grouped. -/
theorem isGrouped_of_interLeaf
    (filled : leaf.IsFilled)
    (success : clauses.interLeaf leaf = .ok merged) :
    merged.IsGrouped := by
  unfold interLeaf at success
  split at success
  · cases success
    exact .leaf filled
  · cases absorbed :
        clauses.absorb (if leaf.isFilter then .filter else .must) .inter
          (.leaf leaf) with
    | error error =>
        rw [absorbed] at success
        cases success
    | ok result =>
        rw [absorbed] at success
        cases success
        exact (grouped.absorb (.leaf filled) absorbed).node

/-- The complement of grouped clauses is grouped. -/
theorem isGrouped_of_complement (success : clauses.complement = .ok merged) :
    merged.IsGrouped := by
  have members : ∀ occur, ∀ node ∈ clauses.nodes occur, node.IsGrouped :=
    fun occur node => grouped.isGrouped_of_mem
  have negated := Node.isGrouped_negated grouped.isGrouped
  unfold Clauses.complement at success
  split at success
  · cases success
  · dsimp only at success
    split at success
    · split at success
      · have single := grouped.node
        split at success
        · rename_i collapses
          cases success
          rw [collapses] at single
          exact Node.isGrouped_negated single
        · rename_i collapses
          rw [collapses] at single
          exact Leaf.isGrouped_of_complement_eq_ok single.isFilled success
      · cases success
        exact negated
    · split at success
      · cases success
        exact Node.isGrouped_negation (members .should)
      · cases success
        exact negated
    · split at success
      · rename_i node single
        cases success
        exact members .mustNot _ (single ▸ List.mem_singleton_self _)
      · cases success
        exact Node.isGrouped_disjunction (members .mustNot)
    · cases success
      exact negated

variable (otherGrouped : other.AreGrouped)
include otherGrouped

/-- The union of grouped clauses is grouped. -/
theorem isGrouped_of_union (success : clauses.union other = .ok merged) :
    merged.IsGrouped := by
  unfold Clauses.union at success
  split at success
  · cases success
    exact otherGrouped.isGrouped
  · split at success
    · cases success
      exact grouped.isGrouped
    · split at success
      · exact isGrouped_of_addDisjuncts grouped
          (fun _ => otherGrouped.isGrouped_of_mem_disjuncts)
          success
      · split at success
        · exact isGrouped_of_addDisjuncts otherGrouped
            (by simpa using grouped.isGrouped) success
        · cases success
          exact Node.isGrouped_apart .union grouped.isGrouped
            otherGrouped.isGrouped

/-- The intersection of grouped clauses is grouped. -/
theorem isGrouped_of_inter (success : clauses.inter other = .ok merged) :
    merged.IsGrouped := by
  have members : ∀ occur, ∀ node ∈ other.nodes occur, node.IsGrouped :=
    fun occur node => otherGrouped.isGrouped_of_mem
  unfold Clauses.inter at success
  split at success
  · cases success
    exact otherGrouped.isGrouped
  · split at success
    · cases success
      exact grouped.isGrouped
    · split at success
      · rw [addConjuncts_eq] at success
        cases absorbed : clauses.absorbClauses other with
        | error error =>
            rw [absorbed] at success
            cases success
        | ok result =>
            rw [absorbed] at success
            cases success
            obtain ⟨withMust, musts, absorbed⟩ := exists_of_bind_eq_ok absorbed
            obtain ⟨withFilter, filters, absorbed⟩ :=
              exists_of_bind_eq_ok absorbed
            have mustGrouped := grouped.absorbAll (members .must) musts
            have filterGrouped :=
              mustGrouped.absorbAll (members .filter) filters
            have resultGrouped :=
              filterGrouped.absorbAll (members .mustNot) absorbed
            exact (resultGrouped.takeAlternatives otherGrouped).node
      · cases success
        exact Node.isGrouped_apart .inter grouped.isGrouped
          otherGrouped.isGrouped

end Merging

end Clauses

namespace Node

variable {a b merged node : Node}

/-- The union of grouped trees is grouped. -/
theorem isGrouped_of_union
    (groupedA : a.IsGrouped)
    (groupedB : b.IsGrouped)
    (success : a.union b = .ok merged) :
    merged.IsGrouped := by
  unfold Node.union at success
  split at success
  · exact Leaf.isGrouped_of_merge_eq_ok .union groupedA.isFilled
      groupedB.isFilled success
  · split at success
    · cases success
      exact groupedA
    · split at success
      · cases success
        exact groupedB
      · cases success
        exact groupedA
      · cases success
        exact groupedA
      · cases success
        exact groupedB
      · exact Clauses.isGrouped_of_union groupedA.areGrouped
          groupedB.areGrouped success
      · exact Clauses.isGrouped_of_unionLeaf groupedA.areGrouped
          groupedB.isFilled success
      · exact Clauses.isGrouped_of_unionLeaf groupedB.areGrouped
          groupedA.isFilled success
      · exact Leaf.isGrouped_of_merge_eq_ok .union groupedA.isFilled
          groupedB.isFilled success

/-- The intersection of grouped trees is grouped. -/
theorem isGrouped_of_inter
    (groupedA : a.IsGrouped)
    (groupedB : b.IsGrouped)
    (success : a.inter b = .ok merged) :
    merged.IsGrouped := by
  unfold Node.inter at success
  split at success
  · exact Leaf.isGrouped_of_merge_eq_ok .inter groupedA.isFilled
      groupedB.isFilled success
  · split at success
    · cases success
      exact groupedA
    · split at success
      · cases success
        exact groupedB
      · cases success
        exact groupedA
      · cases success
        exact groupedB
      · cases success
        exact groupedA
      · exact Clauses.isGrouped_of_inter groupedA.areGrouped
          groupedB.areGrouped success
      · exact Clauses.isGrouped_of_interLeaf groupedA.areGrouped
          groupedB.isFilled success
      · exact Clauses.isGrouped_of_interLeaf groupedB.areGrouped
          groupedA.isFilled success
      · exact Leaf.isGrouped_of_merge_eq_ok .inter groupedA.isFilled
          groupedB.isFilled success

/-- The complement of a grouped tree is grouped. -/
theorem isGrouped_of_complement
    (grouped : node.IsGrouped)
    (success : node.complement = .ok merged) :
    merged.IsGrouped := by
  cases node with
  | leaf content =>
      exact Leaf.isGrouped_of_complement_eq_ok grouped.isFilled success
  | clauses content =>
      exact Clauses.isGrouped_of_complement grouped.areGrouped success

/-- Trees that are built from filled leaves. Clauses are started, take in
clauses of any kind and give way to a single clause; clauses and trees are
merged, and trees are turned into their complements. -/
inductive IsBuilt : Node → Prop
  | leaf {content : Leaf} (filled : content.IsFilled) : IsBuilt (.leaf content)
  | start {content : Clauses Node}
      (isStart : content ∈ [.empty, .conjunction, .disjunction, .negation]) :
      IsBuilt (.clauses content)
  | add {content : Clauses Node} {node : Node} (occur : Occur)
      (clauses : IsBuilt (.clauses content)) (member : IsBuilt node) :
      IsBuilt (.clauses (content.add occur node))
  | addConjunct {content : Clauses Node} {node : Node}
    (clauses : IsBuilt (.clauses content))
      (member : IsBuilt node) : IsBuilt (.clauses (content.addConjunct node))
  | collapsed {node : Node} (given : IsBuilt node) : IsBuilt node.collapsed
  | union {a b : Clauses Node} {node : Node} (left : IsBuilt (.clauses a))
      (right : IsBuilt (.clauses b)) (success : a.union b = .ok node) :
        IsBuilt node
  | unionLeaf {a : Clauses Node} {b : Leaf} {node : Node}
    (left : IsBuilt (.clauses a))
      (right : IsBuilt (.leaf b)) (success : a.unionLeaf b = .ok node) :
        IsBuilt node
  | inter {a b : Clauses Node} {node : Node} (left : IsBuilt (.clauses a))
      (right : IsBuilt (.clauses b)) (success : a.inter b = .ok node) :
        IsBuilt node
  | interLeaf {a : Clauses Node} {b : Leaf} {node : Node}
    (left : IsBuilt (.clauses a))
      (right : IsBuilt (.leaf b)) (success : a.interLeaf b = .ok node) :
        IsBuilt node
  | merge {a b node : Node} (operation : MergeOperation) (left : IsBuilt a)
    (right : IsBuilt b)
      (success : Node.merge operation a b = .ok node) : IsBuilt node
  | complement {given node : Node} (original : IsBuilt given)
      (success : given.complement = .ok node) : IsBuilt node

/-- Every tree that is built from filled leaves is grouped. -/
theorem isGrouped_of_isBuilt (built : node.IsBuilt) : node.IsGrouped := by
  induction built with
  | leaf filled => exact .leaf filled
  | start isStart =>
      refine (Clauses.areGrouped_of_empty fun occur => ?_).isGrouped
      simp only [List.mem_cons, List.not_mem_nil, or_false] at isStart
      rcases isStart with rfl | rfl | rfl | rfl <;> cases occur <;> rfl
  | add occur _ _ clauses member =>
      exact (clauses.areGrouped.add occur member).isGrouped
  | addConjunct _ _ clauses member =>
      exact (clauses.areGrouped.add _ member).isGrouped
  | @collapsed given _ hypothesis =>
      cases given with
      | leaf content => exact hypothesis
      | clauses content => exact hypothesis.areGrouped.node
  | union _ _ success left right =>
      exact Clauses.isGrouped_of_union left.areGrouped right.areGrouped success
  | unionLeaf _ _ success left right =>
      exact Clauses.isGrouped_of_unionLeaf left.areGrouped
        right.isFilled success
  | inter _ _ success left right =>
      exact Clauses.isGrouped_of_inter left.areGrouped right.areGrouped success
  | interLeaf _ _ success left right =>
      exact Clauses.isGrouped_of_interLeaf left.areGrouped
        right.isFilled success
  | merge operation _ _ success left right =>
      cases operation with
      | union => exact isGrouped_of_union left right success
      | inter => exact isGrouped_of_inter left right success
  | complement _ success hypothesis =>
      exact isGrouped_of_complement hypothesis success

/-- A field may have the text that stands for clauses. A condition on it and a
negation of the condition are two groups even so. -/
theorem isGrouped_operatorName :
    let named : Node :=
      .leaf (.term ⟨⟨"@bool", ⟨.keyword, false⟩, .one, false⟩, .str "x"⟩)
    let clauses := (Clauses.conjunction.add .must named).add .must named.negated
    (Node.clauses clauses).IsGrouped ∧
      clauses.must.map (fun group => (group.key.text, group.members.length)) =
        [("@bool", 1), ("@bool", 1)] := by
  intro named clauses
  have isNamed : named.IsBuilt :=
    .leaf (Leaf.isFilled_of_ne fun _ => Leaf.noConfusion)
  have isNegated : named.negated.IsBuilt := .complement isNamed rfl
  constructor
  · exact isGrouped_of_isBuilt
      (.add .must (.add .must (.start (by simp)) isNamed) isNegated)
  · rfl

end Node
end SearchQuery
