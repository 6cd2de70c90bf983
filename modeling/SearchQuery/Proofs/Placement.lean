import SearchQuery.Proofs.Grouping
import SearchQuery.Proofs.Provenance
import SearchQuery.Proofs.Touchstones

/-!
# Placement

What must hold in a compiled tree stands where its scoring puts it: unscored
nodes are filters, and scored ones are not. A tree that is placed so, in normal
form and grouped is settled. The algebra makes settled trees of settled trees,
and every compiled tree is settled.
-/

namespace SearchQuery

/-- The operation by which clauses of a kind come together. -/
def Occur.operation : Occur → MergeOperation
  | .must | .filter => .inter
  | .should | .mustNot => .union

/-- The kind of clauses among which a node must hold. -/
def Node.conjunctOccur (node : Node) :
    Occur := if node.isFilter then .filter else .must

variable {discipline : Discipline} {operation : MergeOperation}

namespace Leaf

variable {leaf : Leaf}

/-- What is known of compiled leaves is stable under the algebra. -/
theorem isStable_isSound
    (tight : discipline.tight = true)
    (probed : ∀ field, discipline.ordered field → discipline.probed field) :
    IsStable (IsSound discipline) := by
  have weighed : IsLasting fun leaf => leaf.boost.equals leaf.boost = true := by
    refine ⟨fun leaf result recast filled equal => ?_,
      fun _ _ => Binary64.equals_one⟩
    rw [(recast.isAkin filled).boost]
    exact equal
  have parts : IsSound discipline = fun leaf => leaf.Keeps discipline ∧
      leaf.IsNeat ∧
      leaf.boost.equals leaf.boost = true :=
    funext fun leaf =>
      propext ⟨fun sound => ⟨sound.keeps, sound.neat, sound.weighed⟩,
      fun ⟨keeps, neat, weighed⟩ => ⟨keeps, neat, weighed⟩⟩
  rw [parts]
  exact (isLasting_isNeat.and weighed).isStable tight probed

/-- A leaf that is recast is scored as before. -/
theorem Recasts.isFilter_eq
    {result : Leaf}
    (recast : leaf.Recasts result)
    (filled : leaf.IsFilled) :
    result.isFilter = leaf.isFilter := by
  have byFilter : ∀ leaf : Leaf, leaf.isFilter = leaf.filter?.getD false := by
    intro leaf
    cases leaf <;> rfl
  rw [byFilter, byFilter, (recast.isWeighted_and_filter? filled).2]

end Leaf

/-- A tree is placed at every depth: what must hold stands where its scoring
puts it. -/
inductive Node.IsPlaced : Node → Prop
  | leaf {content : Leaf} : IsPlaced (.leaf content)
  | clauses {content : Clauses Node}
      (placed : ∀ occur, occur.operation = .inter →
        ∀ node ∈ content.nodes occur,
        node.conjunctOccur = occur)
      (members : ∀ occur, ∀ node ∈ content.nodes occur, IsPlaced node) :
      IsPlaced (.clauses content)

/-- A placed node may be among the clauses of a kind. -/
structure Node.Lodges (occur : Occur) (node : Node) : Prop where
  isPlaced : node.IsPlaced
  placed : occur.operation = .inter → node.conjunctOccur = occur

/-- Clauses of which a placed tree may be made. -/
def Clauses.ArePlaced (clauses : Clauses Node) : Prop :=
  ∀ occur, ∀ node ∈ clauses.nodes occur, node.Lodges occur

namespace Bucket

/-- The members that are put under a key are a group. -/
theorem mem_set_self {α : Type} (key : MergeKey) (members : List α)
    (bucket : Bucket α) :
    ⟨key, members⟩ ∈ bucket.set key members := by
  induction bucket with
  | nil => exact List.mem_cons_self
  | cons group others hypothesis =>
      rw [set]
      split
      · exact List.mem_cons_self
      · exact List.mem_cons_of_mem _ hypothesis

end Bucket

namespace Clauses

variable {clauses other result : Clauses Node} {node : Node} {nodes : List Node}
  {occur : Occur}

/-- The members of a group are the clauses of its kind with its key. -/
theorem AreGrouped.mem_members_iff
    {group : Group Node}
    (grouped : clauses.AreGrouped)
    (isGroup : group ∈ clauses.bucket occur) :
    node ∈ group.members ↔ node ∈ clauses.nodes occur ∧
      node.key = group.key := by
  constructor
  · intro isMember
    exact ⟨List.mem_flatMap.mpr ⟨group, isGroup, isMember⟩,
      (grouped.members occur group isGroup node isMember).keyed⟩
  · rintro ⟨isNode, keyed⟩
    obtain ⟨found, isFound, isMember⟩ := List.mem_flatMap.mp isNode
    have sameKey :=
      (grouped.members occur found isFound node isMember).keyed.symm.trans keyed
    rwa [← List.inj_on_of_nodup_map (grouped.shaped.keys occur) isFound
      isGroup sameKey]

/-- The clauses after one was appended are the earlier ones and the one. -/
theorem mem_nodes_add_iff
    {kind : Occur}
    {member : Node}
    (condition : node.isEmpty = false) :
    member ∈ (clauses.add occur node).nodes kind ↔
      member ∈ clauses.nodes kind ∨ kind = occur ∧ member = node := by
  have adds := adds_add clauses occur condition
  by_cases same : kind = occur
  · subst same
    simp [adds.perm.mem_iff]
  · simp [adds.others kind same, same]

/-- The clauses after some were appended are the earlier ones and those. -/
theorem mem_nodes_addAll_iff
    {kind : Occur}
    {member : Node}
    (conditions : ∀ node ∈ nodes, node.isEmpty = false) :
    member ∈ (clauses.addAll occur nodes).nodes kind ↔
      member ∈ clauses.nodes kind ∨ kind = occur ∧ member ∈ nodes := by
  have adds := adds_addAll clauses occur conditions
  by_cases same : kind = occur
  · subst same
    simp [adds.perm.mem_iff]
  · simp [adds.others kind same, same]

end Clauses

/-- The clauses of a placed tree are placed. -/
theorem Node.IsPlaced.arePlaced
    {clauses : Clauses Node}
    (isPlaced : (Node.clauses clauses).IsPlaced) :
    clauses.ArePlaced := by
  cases isPlaced with
  | clauses placed members =>
      exact fun occur node isNode => ⟨members occur node isNode, fun isInter =>
        placed occur isInter node isNode⟩

/-- A tree that is in normal form, grouped and placed. -/
structure Node.IsSettled (discipline : Discipline) (node : Node) : Prop where
  normal : node.IsNormal (Leaf.IsSound discipline)
  grouped : node.IsGrouped
  isPlaced : node.IsPlaced

/-- A settled node that may be among the clauses of a kind. -/
structure Node.Settles (discipline : Discipline) (occur : Occur) (node : Node) :
    Prop where
  belongs : node.Belongs (Leaf.IsSound discipline) occur
  grouped : node.IsGrouped
  lodges : node.Lodges occur

/-- Clauses of which a settled tree may be made. -/
structure Clauses.AreSettled (discipline : Discipline)
    (clauses : Clauses Node) : Prop where
  normal : clauses.AreNormal (Leaf.IsSound discipline)
  grouped : clauses.AreGrouped
  placed : clauses.ArePlaced

namespace Clauses

variable {clauses other result : Clauses Node} {member : Node}
  {nodes : List Node}
  {occur : Occur}

theorem ArePlaced.isPlaced (placed : clauses.ArePlaced) :
    (Node.clauses clauses).IsPlaced :=
  .clauses (fun occur isInter node isNode =>
      (placed occur node isNode).placed isInter)
    fun occur node isNode => (placed occur node isNode).isPlaced

theorem ArePlaced.node (placed : clauses.ArePlaced) :
    clauses.node.IsPlaced := by
  rcases clauses.node_eq_clauses_or_exists_mem with stays | ⟨occur, isMember⟩
  · exact stays ▸ placed.isPlaced
  · exact (placed occur _ isMember).isPlaced

section Absorbing

variable (stable : Leaf.IsStable (Leaf.IsSound discipline))
include stable

/-- Merges of leaves that lodge among clauses of a kind lodge there. -/
theorem preserves_settles (operation : MergeOperation) (occur : Occur) :
    Siblings.Preserves operation (Node.Settles discipline occur)
      fun _ => true := by
  intro a b merged settlesA settlesB success
  obtain ⟨belongs, joined⟩ :=
    stable.preserves operation occur a b merged settlesA.belongs
      settlesB.belongs success
  refine ⟨⟨belongs, ?_, .leaf, fun isInter => ?_⟩, joined⟩
  · exact Leaf.isGrouped_of_merge_eq_ok operation settlesA.grouped.isFilled
      settlesB.grouped.isFilled success
  · have outcome := Leaf.outcome_merge operation a b
    have scored : ∀ leaf : Leaf, (Node.leaf leaf).Settles discipline occur →
        leaf.Recasts merged → (Node.leaf merged).conjunctOccur = occur := by
      intro leaf settles recast
      have placed := settles.lodges.placed isInter
      rw [Node.conjunctOccur, Node.isFilter] at placed ⊢
      rw [recast.isFilter_eq settles.grouped.isFilled]
      exact placed
    generalize Leaf.merge operation a b = outcomeNode at outcome success
    cases outcome with
    | single recast =>
        cases success
        exact recast.elim (scored a settlesA) (scored b settlesB)
    | apart => cases operation <;> cases success
    | _ => cases success

/-- Absorbing a settled node by the operation of its kind keeps clauses
settled. -/
theorem AreSettled.absorb
    (settled : clauses.AreSettled discipline)
    (raised : occur ≠ .should ∨ 1 ≤ clauses.minimumShould)
    (settles : member.Settles discipline occur)
    (absorbed : clauses.absorb occur occur.operation member = .ok result) :
    result.AreSettled discipline := by
  have condition := settles.belongs.normal.wellFormed.isEmpty_eq_false
  have normals := settled.normal.absorbAll stable
    (List.forall_mem_singleton.mpr settles.belongs)
    raised ((absorbAll_singleton ..).trans absorbed)
  have members := absorbs_of_absorb
    (preserves_settles stable occur.operation occur)
    (fun other isOther => ⟨settled.normal.members occur other isOther,
      settled.grouped.isGrouped_of_mem isOther,
      settled.placed occur other isOther⟩)
    settled.grouped.shaped settles condition absorbed
  refine ⟨normals.1, settled.grouped.absorb settles.grouped absorbed,
    fun kind other isOther => ?_⟩
  by_cases same : kind = occur
  · subst same
    exact (members.property other isOther).lodges
  · rw [nodes, members.others kind same] at isOther
    exact settled.placed kind other isOther

/-- Absorbing settled nodes by the operation of their kind keeps clauses
settled. -/
theorem AreSettled.absorbAll
    (settled : clauses.AreSettled discipline)
    (raised : occur ≠ .should ∨ 1 ≤ clauses.minimumShould)
    (settle : ∀ node ∈ nodes, node.Settles discipline occur)
    (absorbed : clauses.absorbAll occur occur.operation nodes = .ok result) :
    result.AreSettled discipline := by
  induction nodes generalizing clauses with
  | nil =>
      cases absorbed
      exact settled
  | cons node rest hypothesis =>
      obtain ⟨settles, restSettle⟩ := List.forall_mem_cons.mp settle
      rw [Clauses.absorbAll, List.foldlM_cons] at absorbed
      obtain ⟨next, first, absorbed⟩ := exists_of_bind_eq_ok absorbed
      have minimum :=
        (absorbs_of_absorb (stable.preserves occur.operation occur)
        (settled.normal.members occur) settled.grouped.shaped settles.belongs
        settles.belongs.normal.wellFormed.isEmpty_eq_false first).minimum raised
      exact hypothesis (settled.absorb stable raised settles first)
        (minimum.symm ▸ raised)
        restSettle absorbed

end Absorbing
end Clauses

namespace Node

theorem operation_conjunctOccur (node : Node) :
    node.conjunctOccur.operation = .inter := by
  unfold conjunctOccur
  split <;> rfl

variable {left right node : Node} {nodes : List Node}

/-- Two nodes that both must hold stand where their scoring puts them. -/
theorem mem_nodes_conjuncts_iff
    (kind : Occur)
    (member : Node)
    (conditionLeft : left.isEmpty = false)
    (conditionRight : right.isEmpty = false) :
    member ∈
      ((Clauses.conjunction.addConjunct left).addConjunct right).nodes kind ↔
      kind = left.conjunctOccur ∧ member = left ∨ kind = right.conjunctOccur ∧
        member = right := by
  have empty : (Clauses.conjunction : Clauses Node).nodes kind = [] := by
    cases kind <;> rfl
  change member ∈
    ((Clauses.conjunction.add left.conjunctOccur left).add right.conjunctOccur
    right).nodes kind ↔ _
  rw [Clauses.mem_nodes_add_iff conditionRight,
    Clauses.mem_nodes_add_iff conditionLeft, empty]
  simp

/-- Placed nodes that were put into empty clauses of a kind make a placed
tree. -/
theorem isPlaced_addAll
    {start : Clauses Node}
    {occur : Occur}
    (empty : ∀ occur, start.nodes occur = [])
    (conditions : ∀ node ∈ nodes, node.isEmpty = false)
    (lodge : ∀ node ∈ nodes, node.Lodges occur) :
    (Node.clauses (start.addAll occur nodes)).IsPlaced := by
  refine Clauses.ArePlaced.isPlaced fun kind member isMember => ?_
  rw [Clauses.mem_nodes_addAll_iff conditions, empty] at isMember
  rcases isMember with isMember | ⟨rfl, isNode⟩
  · cases isMember
  · exact lodge member isNode

/-- Two placed nodes side by side make a placed tree. -/
theorem isPlaced_apart
    (operation : MergeOperation)
    (conditionLeft : left.isEmpty = false)
    (conditionRight : right.isEmpty = false)
    (placedLeft : left.IsPlaced)
    (placedRight : right.IsPlaced) :
    (operation.apart left right).IsPlaced := by
  cases operation with
  | union =>
      have conditions : ∀ node ∈ [left, right], node.isEmpty = false := by
        simp [conditionLeft, conditionRight]
      have lodge : ∀ node ∈ [left, right], node.Lodges .should := by
        simpa using ⟨⟨placedLeft, MergeOperation.noConfusion⟩, placedRight,
          MergeOperation.noConfusion⟩
      have isPlaced :
          (Node.clauses
            (Clauses.disjunction.addAll .should [left, right])).IsPlaced :=
        isPlaced_addAll (fun occur => by cases occur <;> rfl) conditions lodge
      exact isPlaced
  | inter =>
      refine Clauses.ArePlaced.isPlaced fun kind member isMember => ?_
      rcases (mem_nodes_conjuncts_iff kind member conditionLeft
        conditionRight).mp isMember with ⟨rfl, rfl⟩ | ⟨rfl, rfl⟩
      · exact ⟨placedLeft, fun _ => rfl⟩
      · exact ⟨placedRight, fun _ => rfl⟩

end Node

namespace Leaf

variable {a b leaf : Leaf} {node : Node}

/-- Sound leaves merge to a placed tree. -/
theorem isPlaced_of_merge
    (operation : MergeOperation)
    (normalA : (Node.leaf a).IsNormal (IsSound discipline))
    (normalB : (Node.leaf b).IsNormal (IsSound discipline))
    (success : merge operation a b = .ok node) :
    node.IsPlaced := by
  have outcome := outcome_merge operation a b
  rw [success] at outcome
  cases outcome with
  | single => exact .leaf
  | apart recastLeft recastRight =>
      have stated : ∀ result : Leaf, a.Recasts result ∨ b.Recasts result →
          (Node.leaf result).isEmpty = false := fun result recast =>
        recast.elim
          (fun first => (first.isAkin
            normalA.lawful_leaf.keeps.isFilled).isNothing.trans
              normalA.condition_leaf)
          fun second => (second.isAkin
            normalB.lawful_leaf.keeps.isFilled).isNothing.trans
              normalB.condition_leaf
      exact Node.isPlaced_apart operation (stated _ recastLeft)
        (stated _ recastRight) .leaf .leaf

/-- The complement of a sound leaf is placed. -/
theorem isPlaced_of_complement
    (normal : (Node.leaf leaf).IsNormal (IsSound discipline))
    (success : leaf.complement = .ok node) :
    node.IsPlaced := by
  have stated : ∀ {result : Leaf}, leaf.Recasts result →
      (Node.leaf result).isEmpty = false := fun recast =>
    (recast.isAkin normal.lawful_leaf.keeps.isFilled).isNothing.trans
      normal.condition_leaf
  cases turnsInto_of_complement success with
  | single => exact .leaf
  | either recastLeft recastRight =>
      exact Node.isPlaced_apart .union (stated recastLeft) (stated recastRight)
        .leaf .leaf
  | @negation leaves nonempty turned =>
      refine Node.isPlaced_addAll (fun occur => by cases occur <;> rfl) ?_ ?_
      · intro member isMember
        obtain ⟨result, isResult, rfl⟩ := List.mem_map.mp isMember
        rcases turned with recasts | ⟨range, _, rfl⟩
        · exact stated (recasts result isResult)
        · rw [List.mem_singleton.mp isResult]
          rfl
      · intro member isMember
        obtain ⟨result, _, rfl⟩ := List.mem_map.mp isMember
        exact ⟨.leaf, MergeOperation.noConfusion⟩

end Leaf

theorem Node.isSettled_leaf
    {leaf : Leaf}
    (normal : (Node.leaf leaf).IsNormal (Leaf.IsSound discipline)) :
    (Node.leaf leaf).IsSettled discipline :=
  ⟨normal, .leaf normal.lawful_leaf.keeps.isFilled, .leaf⟩

/-- A settled leaf may be among the clauses of any kind where its scoring
allows. -/
theorem Node.IsSettled.settles_leaf
    {leaf : Leaf}
    {occur : Occur}
    (settled : (Node.leaf leaf).IsSettled discipline)
    (placed : occur.operation = .inter →
      (Node.leaf leaf).conjunctOccur = occur) :
    (Node.leaf leaf).Settles discipline occur :=
  ⟨settled.normal.belongs_leaf occur, settled.grouped, settled.isPlaced, placed⟩

theorem Node.IsSettled.areSettled
    {clauses : Clauses Node}
    (settled : (Node.clauses clauses).IsSettled discipline) :
    clauses.AreSettled discipline :=
  ⟨settled.normal.areNormal, settled.grouped.areGrouped,
    settled.isPlaced.arePlaced⟩

namespace Clauses

variable {clauses other result : Clauses Node} {member merged : Node}
  {nodes : List Node}
  {occur : Occur} {leaf : Leaf}

theorem ArePlaced.withOperators
    (placed : clauses.ArePlaced)
    (operators : Operators) :
    { clauses with operators := operators }.ArePlaced := by
  intro occur
  cases occur
  · exact placed .must
  · exact placed .filter
  · exact placed .should
  · exact placed .mustNot

/-- Clauses that take over alternatives stay placed. -/
theorem ArePlaced.takeAlternatives
    (placed : clauses.ArePlaced)
    (otherPlaced : other.ArePlaced) :
    (clauses.takeAlternatives other).ArePlaced := by
  unfold Clauses.takeAlternatives
  split
  · exact placed
  · intro occur
    cases occur
    · exact placed .must
    · exact placed .filter
    · exact otherPlaced .should
    · exact placed .mustNot

theorem AreSettled.settles_of_mem
    (settled : clauses.AreSettled discipline)
    (isMember : member ∈ clauses.nodes occur) :
    member.Settles discipline occur :=
  ⟨settled.normal.members occur member isMember,
    settled.grouped.isGrouped_of_mem isMember,
    settled.placed occur member isMember⟩

/-- The alternatives that a settled tree stands for settle among
alternatives. -/
theorem settles_of_mem_disjuncts
    (settled : (Node.clauses clauses).IsSettled discipline)
    (isDisjunct : member ∈ clauses.disjuncts) :
    member.Settles discipline .should := by
  refine ⟨belongs_of_mem_disjuncts settled.normal isDisjunct,
    settled.grouped.areGrouped.isGrouped_of_mem_disjuncts isDisjunct, ?_,
    MergeOperation.noConfusion⟩
  unfold disjuncts at isDisjunct
  split at isDisjunct
  · exact (settled.areSettled.settles_of_mem isDisjunct).lodges.isPlaced
  · rw [List.mem_singleton.mp isDisjunct]
    exact settled.isPlaced

section Merging

variable (stable : Leaf.IsStable (Leaf.IsSound discipline))
  (settled : (Node.clauses clauses).IsSettled discipline)
include stable settled

/-- Adding alternatives to a disjunction keeps a tree placed. -/
theorem isPlaced_of_addDisjuncts
    {operators : Operators}
    (disjunctive : clauses.isDisjunctive = true)
    (settle : ∀ node ∈ nodes, node.Settles discipline .should)
    (success : clauses.addDisjuncts nodes operators = .ok merged) :
    merged.IsPlaced := by
  have raised :=
    (settled.normal.areNormal.shaped.isDisjunction disjunctive).minimum
  unfold addDisjuncts at success
  cases absorbed : clauses.absorbAll .should .union nodes with
  | error error =>
      rw [absorbed] at success
      cases success
  | ok result =>
      rw [absorbed] at success
      cases success
      have resultSettled := settled.areSettled.absorbAll stable
        (.inr (Nat.le_of_eq raised.symm)) settle absorbed
      exact (resultSettled.placed.withOperators _).node

/-- The union of clauses and a leaf is placed. -/
theorem isPlaced_of_unionLeaf
    (leafSettled : (Node.leaf leaf).IsSettled discipline)
    (success : clauses.unionLeaf leaf = .ok merged) :
    merged.IsPlaced := by
  unfold unionLeaf at success
  rw [if_neg (Bool.eq_false_iff.mp settled.normal.clauses_isEmpty)] at success
  split at success
  · rename_i disjunctive
    exact isPlaced_of_addDisjuncts stable settled disjunctive
      (List.forall_mem_singleton.mpr
        (leafSettled.settles_leaf MergeOperation.noConfusion)) success
  · cases success
    exact Node.isPlaced_apart .union settled.normal.clauses_isEmpty
      leafSettled.normal.condition_leaf settled.isPlaced leafSettled.isPlaced

/-- The intersection of clauses and a leaf is placed. -/
theorem isPlaced_of_interLeaf
    (leafSettled : (Node.leaf leaf).IsSettled discipline)
    (success : clauses.interLeaf leaf = .ok merged) :
    merged.IsPlaced := by
  unfold interLeaf at success
  rw [if_neg (Bool.eq_false_iff.mp settled.normal.clauses_isEmpty)] at success
  have conjunctive := (Node.leaf leaf).operation_conjunctOccur
  change (clauses.absorb (Node.leaf leaf).conjunctOccur .inter (.leaf leaf)).map
    _ = _ at success
  cases absorbed :
    clauses.absorb (Node.leaf leaf).conjunctOccur .inter (.leaf leaf) with
  | error error =>
      rw [absorbed] at success
      cases success
  | ok result =>
      rw [absorbed] at success
      cases success
      rw [← conjunctive] at absorbed
      have notAlternative : (Node.leaf leaf).conjunctOccur ≠ .should := by
        unfold Node.conjunctOccur
        split <;> decide
      exact (settled.areSettled.absorb stable (.inl notAlternative)
        (leafSettled.settles_leaf fun _ => rfl) absorbed).placed.node

omit stable in
/-- The complement of clauses is placed. -/
theorem isPlaced_of_complement (success : clauses.complement = .ok merged) :
    merged.IsPlaced := by
  have absent := settled.normal.areNormal.shaped.nodes_eq_nil_iff
  have negated : (Node.clauses clauses).negated.IsPlaced := by
    have isPlaced : (Node.clauses
        (Clauses.negation.addAll .mustNot [.clauses clauses])).IsPlaced :=
      Node.isPlaced_addAll (fun occur => by cases occur <;> rfl)
        (List.forall_mem_singleton.mpr settled.normal.clauses_isEmpty)
        (List.forall_mem_singleton.mpr
          ⟨settled.isPlaced, MergeOperation.noConfusion⟩)
    exact isPlaced
  have stated : ∀ occur, ∀ node ∈ clauses.nodes occur, node.isEmpty = false :=
    fun occur node isNode =>
      (settled.areSettled.settles_of_mem
        isNode).belongs.normal.wellFormed.isEmpty_eq_false
  have lodge : ∀ occur kind, kind.operation = .union →
      ∀ node ∈ clauses.nodes occur, node.Lodges kind :=
    fun occur kind isUnion node isNode =>
      ⟨(settled.areSettled.settles_of_mem isNode).lodges.isPlaced,
        fun isInter => by
          rw [isUnion] at isInter
          cases isInter⟩
  unfold Clauses.complement at success
  rw [if_neg (Bool.eq_false_iff.mp settled.normal.clauses_isEmpty)] at success
  dsimp only at success
  split at success
  · rename_i conjunctive alternatives exclusions
    have noneExcluded : clauses.nodes .mustNot = [] :=
      (absent .mustNot).mpr (by simpa [bucket] using exclusions)
    have several := settled.normal.several
    rw [noneExcluded] at several
    rw [if_neg (by simp at several; omega)] at success
    cases success
    exact negated
  · split at success
    · cases success
      exact Node.isPlaced_addAll (fun occur => by cases occur <;> rfl)
        (stated .should) (lodge .should .mustNot rfl)
    · cases success
      exact negated
  · split at success
    · rename_i node single
      cases success
      exact (settled.areSettled.settles_of_mem
        (single ▸ List.mem_singleton_self _)).lodges.isPlaced
    · cases success
      exact Node.isPlaced_addAll (fun occur => by cases occur <;> rfl)
        (stated .mustNot) (lodge .mustNot .should rfl)
  · cases success
    exact negated

variable (otherSettled : (Node.clauses other).IsSettled discipline)
include otherSettled

/-- The union of clauses is placed. -/
theorem isPlaced_of_union (success : clauses.union other = .ok merged) :
    merged.IsPlaced := by
  unfold Clauses.union at success
  rw [if_neg (Bool.eq_false_iff.mp settled.normal.clauses_isEmpty),
    if_neg (Bool.eq_false_iff.mp otherSettled.normal.clauses_isEmpty)]
      at success
  split at success
  · rename_i disjunctive
    exact isPlaced_of_addDisjuncts stable settled disjunctive
      (fun _ => settles_of_mem_disjuncts otherSettled) success
  · rename_i mixed
    split at success
    · rename_i disjunctive
      have settles : (Node.clauses clauses).Settles discipline .should :=
        ⟨belongs_should settled.normal (Bool.not_eq_true _ ▸ mixed),
          settled.grouped, settled.isPlaced, MergeOperation.noConfusion⟩
      exact isPlaced_of_addDisjuncts stable otherSettled disjunctive
        (List.forall_mem_singleton.mpr settles) success
    · cases success
      exact Node.isPlaced_apart .union settled.normal.clauses_isEmpty
        otherSettled.normal.clauses_isEmpty settled.isPlaced
        otherSettled.isPlaced

/-- Absorbing the clauses of another tree keeps clauses settled. -/
theorem areSettled_of_absorbClauses
    (absorbed : clauses.absorbClauses other = .ok result) :
    result.AreSettled discipline := by
  have settle : ∀ occur, ∀ node ∈ other.nodes occur,
      node.Settles discipline occur :=
    fun occur node => otherSettled.areSettled.settles_of_mem
  obtain ⟨withMust, musts, absorbed⟩ := exists_of_bind_eq_ok absorbed
  obtain ⟨withFilter, filters, absorbed⟩ := exists_of_bind_eq_ok absorbed
  have mustSettled := settled.areSettled.absorbAll stable
    (.inl (by decide)) (settle .must)
    musts
  have filterSettled := mustSettled.absorbAll stable (.inl (by decide))
    (settle .filter)
    filters
  exact filterSettled.absorbAll stable (.inl (by decide))
    (settle .mustNot) absorbed

/-- The intersection of clauses is placed. -/
theorem isPlaced_of_inter (success : clauses.inter other = .ok merged) :
    merged.IsPlaced := by
  unfold Clauses.inter at success
  rw [if_neg (Bool.eq_false_iff.mp settled.normal.clauses_isEmpty),
    if_neg (Bool.eq_false_iff.mp otherSettled.normal.clauses_isEmpty)]
      at success
  split at success
  · rw [addConjuncts_eq] at success
    cases absorbed : clauses.absorbClauses other with
    | error error =>
        rw [absorbed] at success
        cases success
    | ok result =>
        rw [absorbed] at success
        cases success
        have resultSettled :=
          areSettled_of_absorbClauses stable settled otherSettled absorbed
        exact ((resultSettled.placed.takeAlternatives
          otherSettled.isPlaced.arePlaced).withOperators _).node
  · cases success
    exact Node.isPlaced_apart .inter settled.normal.clauses_isEmpty
      otherSettled.normal.clauses_isEmpty settled.isPlaced otherSettled.isPlaced

end Merging
end Clauses

namespace Node

variable {a b node merged : Node} {nodes : List Node}
  {operation : MergeOperation}

section Settling

variable (stable : Leaf.IsStable (Leaf.IsSound discipline))
include stable

/-- Settled trees merge to a settled tree. -/
theorem IsSettled.merge
    (settledA : a.IsSettled discipline)
    (settledB : b.IsSettled discipline)
    (success : Node.merge operation a b = .ok merged) :
    merged.IsSettled discipline := by
  cases operation with
  | union =>
      refine ⟨isNormal_of_union stable settledA.normal settledB.normal success,
        isGrouped_of_union settledA.grouped settledB.grouped success, ?_⟩
      change a.union b = _ at success
      unfold Node.union at success
      split at success
      · exact Leaf.isPlaced_of_merge .union settledA.normal
          settledB.normal success
      · split at success
        · cases success
          exact settledA.isPlaced
        · split at success
          · cases success
            exact settledB.isPlaced
          · cases success
            exact settledA.isPlaced
          · cases success
            exact settledA.isPlaced
          · cases success
            exact settledB.isPlaced
          · exact Clauses.isPlaced_of_union stable settledA
              settledB success
          · exact Clauses.isPlaced_of_unionLeaf stable settledA
              settledB success
          · exact Clauses.isPlaced_of_unionLeaf stable settledB
              settledA success
          · exact Leaf.isPlaced_of_merge .union settledA.normal
              settledB.normal success
  | inter =>
      refine ⟨isNormal_of_inter stable settledA.normal settledB.normal success,
        isGrouped_of_inter settledA.grouped settledB.grouped success, ?_⟩
      change a.inter b = _ at success
      unfold Node.inter at success
      split at success
      · exact Leaf.isPlaced_of_merge .inter settledA.normal
          settledB.normal success
      · split at success
        · cases success
          exact settledA.isPlaced
        · split at success
          · cases success
            exact settledB.isPlaced
          · cases success
            exact settledA.isPlaced
          · cases success
            exact settledB.isPlaced
          · cases success
            exact settledA.isPlaced
          · exact Clauses.isPlaced_of_inter stable settledA
              settledB success
          · exact Clauses.isPlaced_of_interLeaf stable settledA
              settledB success
          · exact Clauses.isPlaced_of_interLeaf stable settledB
              settledA success
          · exact Leaf.isPlaced_of_merge .inter settledA.normal
              settledB.normal success

/-- The complement of a settled tree is settled. -/
theorem IsSettled.complement
    (settled : node.IsSettled discipline)
    (success : node.complement = .ok merged) :
    merged.IsSettled discipline := by
  refine ⟨isNormal_of_complement stable settled.normal success,
    isGrouped_of_complement settled.grouped success, ?_⟩
  cases node with
  | leaf content => exact Leaf.isPlaced_of_complement settled.normal success
  | clauses content => exact Clauses.isPlaced_of_complement settled success

/-- Any number of settled trees merge to a settled tree. -/
theorem isSettled_of_mergeAll
    (settled : ∀ node ∈ nodes, node.IsSettled discipline)
    (success : mergeAll operation nodes = .ok merged) :
    merged.IsSettled discipline := by
  cases nodes with
  | nil => cases success
  | cons first rest =>
      obtain ⟨firstSettled, restSettled⟩ := List.forall_mem_cons.mp settled
      rw [mergeAll] at success
      clear settled
      induction rest generalizing first with
      | nil =>
          cases success
          exact firstSettled
      | cons next rest hypothesis =>
          obtain ⟨nextSettled, restSettled⟩ :=
            List.forall_mem_cons.mp restSettled
          rw [List.foldlM_cons] at success
          obtain ⟨joined, joins, success⟩ := exists_of_bind_eq_ok success
          exact hypothesis joined success
            (firstSettled.merge stable nextSettled joins)
            restSettled

end Settling
end Node

namespace Compiler

variable {compiler : Compiler} {node : Node}

/-- The tree of a condition is in normal form with sound leaves. -/
theorem isNormal_isSound_compileCondition
    {condition : Condition}
    (success : compiler.compileCondition condition = .ok node) :
    node.IsNormal (Leaf.IsSound compiler.looseDiscipline) := by
  obtain ⟨boost, weighs, normal⟩ := isNormal_leafLaw_compileCondition success
  refine normal.mono fun leaf law => ⟨law.1, law.2.1, ?_⟩
  cases weighted : leaf.isWeighted with
  | true =>
      rw [law.2.2.weight weighted, Binary64.equals, (boost_eq_ok weighs).2]
      simp
  | false =>
      have isOne : leaf.boost = .one := by
        cases leaf <;> first | rfl | cases weighted
      rw [isOne]
      exact Binary64.equals_one

/-- The tree of a condition is settled. -/
theorem isSettled_compileCondition
    {condition : Condition}
    (success : compiler.compileCondition condition = .ok node) :
    node.IsSettled compiler.looseDiscipline := by
  have obeys := compiler.obeys_looseDiscipline
  have normal := isNormal_isSound_compileCondition success
  obtain ⟨boost, weighs, yields⟩ := exists_yields_of_compileCondition success
  cases yields with
  | @fullText scope _ resolves merges =>
      refine Node.isSettled_of_mergeAll
        (Leaf.isStable_isSound obeys.tight obeys.probed)
          (fun member isMember => ?_) merges
      obtain ⟨text, _, rfl⟩ := List.mem_map.mp isMember
      have weighed : scope.boost.equals scope.boost = true := by
        rw [resolves.boost, Binary64.equals, (boost_eq_ok weighs).2]
        simp
      exact Node.isSettled_leaf (.leaf rfl ⟨resolves.type, trivial, weighed⟩)
  | _ => exact Node.isSettled_leaf normal

/-- Every compiled tree is settled: it is in normal form, grouped and placed. -/
theorem isSettled_of_compile
    {expression : Expr}
    (success : compiler.compile expression = .ok node) :
    node.IsSettled compiler.looseDiscipline := by
  have obeys := compiler.obeys_looseDiscipline
  have stable : Leaf.IsStable (Leaf.IsSound compiler.looseDiscipline) :=
    Leaf.isStable_isSound obeys.tight obeys.probed
  have merged :
      ∀ {operation : MergeOperation} {parts : List Expr} {node : Node},
      (∀ part ∈ parts, ∀ node, compiler.compile part = .ok node →
        node.IsSettled compiler.looseDiscipline) →
        compiler.compileAll parts >>= Node.mergeAll operation = .ok node →
          node.IsSettled compiler.looseDiscipline := by
    intro operation parts node settled success
    obtain ⟨nodes, compiles, merges⟩ := exists_of_bind_eq_ok success
    rw [compileAll_eq_mapM] at compiles
    refine Node.isSettled_of_mergeAll stable
      (fun member isMember => ?_) merges
    obtain ⟨part, isPart, compilesTo⟩ :=
      exists_mem_of_mapM_eq_ok compiles isMember
    exact settled part isPart member compilesTo
  have every :
      expression.Every fun _ => True :=
        Expr.every_of_forall (fun _ => trivial) expression
  induction every generalizing node with
  | condition =>
      rw [compile] at success
      exact isSettled_compileCondition success
  | all every hypothesis =>
      rw [compile] at success
      exact merged (fun part isPart _ => hypothesis part isPart) success
  | any every hypothesis =>
      rw [compile] at success
      exact merged (fun part isPart _ => hypothesis part isPart) success
  | not every hypothesis =>
      rw [compile] at success
      obtain ⟨part, compiles, success⟩ := exists_of_bind_eq_ok success
      exact (hypothesis compiles).complement stable success

end Compiler

end SearchQuery
