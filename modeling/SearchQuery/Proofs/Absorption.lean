import SearchQuery.Proofs.Collapse
import SearchQuery.Proofs.LeafMerges

/-!
# Absorbing clauses

Nodes that are absorbed among the clauses of one kind join their verdicts with
those of the clauses, and leave the clauses of other kinds alone.
-/

namespace SearchQuery

theorem MergeOperation.join_assoc (operation : MergeOperation)
    (first second third : Bool) :
    operation.join (operation.join first second) third =
      operation.join first (operation.join second third) := by
  cases operation
  · exact Bool.or_assoc first second third
  · exact Bool.and_assoc first second third

theorem MergeOperation.join_joinAll_nil (operation : MergeOperation)
    (verdict : Bool) :
    operation.join verdict (operation.joinAll []) = verdict := by
  cases operation
  · exact Bool.or_false verdict
  · exact Bool.and_true verdict

namespace Clauses

/-- What clauses become when nodes are absorbed among those of one kind. -/
structure Absorbs (operation : MergeOperation) (occur : Occur)
    (property : Node → Prop)
    (verdict : Node → Bool) (clauses : Clauses Node) (nodes : List Node)
    (result : Clauses Node) : Prop where
  shaped : result.IsShaped
  nonempty : clauses.isEmpty = false ∨ nodes ≠ [] → result.isEmpty = false
  property : ∀ member ∈ result.nodes occur, property member
  joined : operation.joinAll ((result.nodes occur).map verdict) =
    operation.join (operation.joinAll ((clauses.nodes occur).map verdict))
      (operation.joinAll (nodes.map verdict))
  others : ∀ other, other ≠ occur → result.bucket other = clauses.bucket other
  minimum : occur ≠ .should ∨ 1 ≤ clauses.minimumShould →
    result.minimumShould = clauses.minimumShould

/-- A merge of two leaves lies behind the failure to absorb nodes. Under
intersection the leaves hold wherever all of the nodes do. -/
def Fails (operation : MergeOperation) (property : Node → Prop)
    (verdict : Node → Bool)
    (nodes : List Node) (error : Error) : Prop :=
  ∃ a b, property (.leaf a) ∧ property (.leaf b) ∧ Leaf.merge operation a b =
    .error error ∧
    (operation = .inter → (nodes.map verdict).all id = true →
      verdict (.leaf a) = true ∧ verdict (.leaf b) = true)

variable {operation : MergeOperation} {occur : Occur} {property : Node → Prop}
  {verdict : Node → Bool} {clauses result : Clauses Node} {node : Node}
  {nodes : List Node}

/-- Absorbing a node that states a condition puts its group, grown by the
node. -/
theorem absorb_eq_map_put
    (clauses : Clauses Node)
    (occur : Occur)
    (operation : MergeOperation)
    (condition : node.isEmpty = false) :
    clauses.absorb occur operation node =
      (grownGroup operation (clauses.bucket occur) node).map
        (clauses.put occur node.key) := by
  unfold absorb
  rw [condition, if_neg Bool.false_ne_true]
  rfl

/-- Where a node that states a condition is absorbed, its group was grown and
put. -/
theorem exists_put_of_absorb
    (condition : node.isEmpty = false)
    (absorbed : clauses.absorb occur operation node = .ok result) :
    ∃ grown, grownGroup operation (clauses.bucket occur) node = .ok grown ∧
      clauses.put occur node.key grown = result := by
  rw [absorb_eq_map_put clauses occur operation condition] at absorbed
  cases grows : grownGroup operation (clauses.bucket occur) node with
  | error error =>
      rw [grows] at absorbed
      cases absorbed
  | ok grown =>
      rw [grows] at absorbed
      exact ⟨grown, rfl, Except.ok.inj absorbed⟩

variable (preserves : Siblings.Preserves operation property verdict)
  (given : ∀ member ∈ clauses.nodes occur, property member)
include preserves

/-- The group that a node comes into has what the merges preserve, and joins the
verdict on the node with those on the group. -/
theorem grownGroup_ok
    {bucket : Bucket Node}
    {grown : List Node}
    (given : ∀ member ∈ (bucket.find? node.key).getD [], property member)
    (givenNode : property node)
    (grows : grownGroup operation bucket node = .ok grown) :
    grown ≠ [] ∧ (∀ member ∈ grown, property member) ∧
      operation.joinAll (grown.map verdict) =
        operation.join
          (operation.joinAll (((bucket.find? node.key).getD []).map verdict))
          (verdict node) := by
  unfold grownGroup at grows
  cases found : bucket.find? node.key with
  | some members =>
      rw [found] at grows given
      exact Siblings.absorb_ok preserves given givenNode grows
  | none =>
      rw [found] at grows
      cases grows
      refine ⟨List.cons_ne_nil _ _, by simpa using givenNode, ?_⟩
      cases operation <;> simp [MergeOperation.joinAll, MergeOperation.join]

include given

/-- A node that is absorbed joins its verdict with those on the clauses of the
kind. -/
theorem absorbs_of_absorb
    (shaped : clauses.IsShaped)
    (givenNode : property node)
    (condition : node.isEmpty = false)
    (absorbed : clauses.absorb occur operation node = .ok result) :
    clauses.Absorbs operation occur property verdict [node] result := by
  obtain ⟨grown, grows, rfl⟩ := exists_put_of_absorb condition absorbed
  obtain ⟨rest, before, after⟩ := exists_rest_put clauses occur node.key grown
  obtain ⟨nonempty, has, joins⟩ := grownGroup_ok preserves
    (fun member isMember => given member
      (before.symm.subset (List.mem_append_left rest isMember))) givenNode grows
  refine ⟨shaped.put occur node.key nonempty, fun _ => isEmpty_put _ _ _ _, ?_,
    ?_, fun other differs => bucket_put_of_ne _ _ _ _ differs,
    minimumShould_put_of_raised _ _ _ _⟩
  · intro member isMember
    rcases List.mem_append.mp (after.subset isMember) with isGrown | isRest
    · exact has member isGrown
    · exact given member (before.symm.subset (List.mem_append_right _ isRest))
  · rw [operation.joinAll_perm (after.map verdict),
      operation.joinAll_perm (before.map verdict), List.map_append,
      List.map_append, operation.joinAll_append, operation.joinAll_append,
      joins, List.map_singleton, operation.joinAll_cons,
      operation.join_joinAll_nil, operation.join_assoc, operation.join_assoc,
      operation.join_comm (verdict node)]

/-- A node that cannot be absorbed leads back to two leaves that cannot be
merged. -/
theorem fails_of_absorb
    {error : Error}
    (givenNode : property node)
    (refused : clauses.absorb occur operation node = .error error) :
    Fails operation property verdict (clauses.nodes occur ++ [node]) error := by
  unfold absorb at refused
  dsimp only at refused
  split at refused
  · cases refused
  · unfold grownGroup at refused
    cases found : Bucket.find? node.key (clauses.bucket occur) with
    | none =>
        rw [found] at refused
        cases refused
    | some members =>
        rw [found] at refused
        dsimp only at refused
        cases absorbed : Siblings.absorb operation members node with
        | ok grown =>
            rw [absorbed] at refused
            cases refused
        | error cause =>
            rw [absorbed] at refused
            cases refused
            have isGroup : ∀ member ∈ members, member ∈ clauses.nodes occur :=
              fun member isMember =>
                List.mem_flatMap.mpr
                  ⟨_, Bucket.mem_of_find?_eq_some found, isMember⟩
            obtain ⟨a, b, hasA, hasB, fails,
                hold⟩ := Siblings.absorb_error preserves
              (fun member isMember => given member (isGroup member isMember))
                givenNode absorbed
            refine ⟨a, b, hasA, hasB, fails, fun isInter all => ?_⟩
            rw [List.all_map, List.all_eq_true] at all
            apply hold isInter
            · rw [List.all_map, List.all_eq_true]
              intro member isMember
              exact all member
                (List.mem_append_left _ (isGroup member isMember))
            · exact all node
                (List.mem_append_right _ (List.mem_singleton_self node))

/-- Nodes that are absorbed one after the other join their verdicts with those
on the clauses of the kind. -/
theorem absorbs_of_absorbAll
    (shaped : clauses.IsShaped)
    (givenNodes : ∀ node ∈ nodes, property node)
    (conditions : ∀ node ∈ nodes, node.isEmpty = false)
    (absorbed : clauses.absorbAll occur operation nodes = .ok result) :
    clauses.Absorbs operation occur property verdict nodes result := by
  induction nodes generalizing clauses with
  | nil =>
      cases absorbed
      refine ⟨shaped, ?_, given, ?_, fun other differs => rfl,
        fun raised => rfl⟩
      · rintro (nonempty | nonempty)
        · exact nonempty
        · exact absurd rfl nonempty
      · exact (operation.join_joinAll_nil _).symm
  | cons node rest hypothesis =>
      obtain ⟨givenNode, givenRest⟩ := List.forall_mem_cons.mp givenNodes
      obtain ⟨condition, conditionsRest⟩ := List.forall_mem_cons.mp conditions
      rw [absorbAll, List.foldlM_cons] at absorbed
      cases first : clauses.absorb occur operation node with
      | error error =>
          rw [first] at absorbed
          cases absorbed
      | ok next =>
          rw [first] at absorbed
          have one :=
            absorbs_of_absorb preserves given shaped givenNode condition first
          have others :=
            hypothesis one.property one.shaped givenRest conditionsRest absorbed
          refine ⟨others.shaped,
            fun _ => others.nonempty (.inl (one.nonempty (.inr (by simp)))),
            others.property, ?_, ?_, ?_⟩
          · rw [others.joined, one.joined, List.map_cons, List.map_cons,
              operation.joinAll_cons, operation.joinAll_cons, List.map_nil,
              operation.join_joinAll_nil, operation.join_assoc]
          · intro other differs
            exact (others.others other differs).trans (one.others other differs)
          · intro raised
            have kept := one.minimum raised
            exact (others.minimum (kept.symm ▸ raised)).trans kept

/-- Nodes that cannot be absorbed lead back to two leaves that cannot be
merged. -/
theorem fails_of_absorbAll
    {error : Error}
    (shaped : clauses.IsShaped)
    (givenNodes : ∀ node ∈ nodes, property node)
    (conditions : ∀ node ∈ nodes, node.isEmpty = false)
    (refused : clauses.absorbAll occur operation nodes = .error error) :
    Fails operation property verdict (clauses.nodes occur ++ nodes) error := by
  induction nodes generalizing clauses with
  | nil => cases refused
  | cons node rest hypothesis =>
      obtain ⟨givenNode, givenRest⟩ := List.forall_mem_cons.mp givenNodes
      obtain ⟨condition, conditionsRest⟩ := List.forall_mem_cons.mp conditions
      rw [absorbAll, List.foldlM_cons] at refused
      cases first : clauses.absorb occur operation node with
      | error cause =>
          rw [first] at refused
          cases refused
          obtain ⟨a, b, hasA, hasB, fails, hold⟩ :=
            fails_of_absorb preserves given givenNode first
          refine ⟨a, b, hasA, hasB, fails, fun isInter all => hold isInter ?_⟩
          rw [List.append_cons, List.map_append, List.all_append,
            Bool.and_eq_true] at all
          exact all.1
      | ok next =>
          rw [first] at refused
          have one :=
            absorbs_of_absorb preserves given shaped givenNode condition first
          obtain ⟨a, b, hasA, hasB, fails, hold⟩ :=
            hypothesis one.property one.shaped givenRest conditionsRest refused
          refine ⟨a, b, hasA, hasB, fails, fun isInter all => hold isInter ?_⟩
          have joined := one.joined
          subst isInter
          rw [List.append_cons, List.map_append, List.all_append,
            Bool.and_eq_true] at all
          rw [List.map_append, List.all_append, Bool.and_eq_true]
          refine ⟨joined.trans ?_, all.2⟩
          rw [← MergeOperation.joinAll_append, ← List.map_append]
          exact all.1

end Clauses

variable {discipline : Discipline} {operation : MergeOperation}
  {engine : Engine}
  {document : StoredDocument} {property : Node → Prop}

/-- An operation is sound on the nodes with a property, which are well-formed:
its merges of leaves are right and keep the property. -/
structure MergeOperation.IsSound (operation : MergeOperation)
    (discipline : Discipline)
    (property : Node → Prop) : Prop where
  formed : ∀ node, property node → node.WellFormed (Leaf.Keeps discipline)
  merges : ∀ a b, property (.leaf a) → property (.leaf b) →
    operation.Merges discipline (.leaf a) (.leaf b) (Leaf.merge operation a b)
  keeps : ∀ a b merged, property (.leaf a) → property (.leaf b) →
    Leaf.merge operation a b = .ok (.leaf merged) → property (.leaf merged)

namespace MergeOperation

/-- Operations are sound on well-formed nodes, where ranges leave a place for a
value if they unite. -/
theorem isSound_wellFormed
    (tight : operation = .union → discipline.tight = true) :
    operation.IsSound discipline (Node.WellFormed (Leaf.Keeps discipline)) where
  formed _ := id
  merges _ _ formedA formedB := Leaf.merges_merge formedA formedB tight
  keeps a b merged formedA formedB success := by
    have merges := Leaf.merges_merge formedA formedB tight
    rw [success] at merges
    exact merges.formed

namespace IsSound

variable (sound : operation.IsSound discipline property)
include sound

theorem preserves : Siblings.Preserves operation property fun _ => true := by
  intro a b merged hasA hasB success
  refine ⟨sound.keeps a b merged hasA hasB success, ?_⟩
  cases operation <;> rfl

/-- Merges of leaves keep the property and join the verdicts. -/
theorem preserves_holds
    (engine : Engine)
    (separated : discipline.IsSeparated)
    (fits : document.Fits discipline.types) :
    Siblings.Preserves operation property (Node.holds engine document) := by
  intro a b merged hasA hasB success
  have merges := sound.merges a b hasA hasB
  rw [success] at merges
  exact ⟨sound.keeps a b merged hasA hasB success,
    merges.holds separated engine document fits⟩

/-- Merges fail for an exclusion only under intersection. -/
theorem isInter_of_fails
    {verdict : Node → Bool}
    {nodes : List Node}
    {error : Error}
    (fails : Clauses.Fails operation property verdict nodes error)
    (exclusion : error.isExclusion = true) :
    operation = .inter := by
  obtain ⟨a, b, hasA, hasB, failure, hold⟩ := fails
  have merges := sound.merges a b hasA hasB
  rw [failure] at merges
  exact (merges exclusion).1

/-- Where merges fail for an exclusion, not all nodes hold. -/
theorem excludes_of_fails
    {nodes : List Node}
    {error : Error}
    (fails : Clauses.Fails operation property (Node.holds engine document)
      nodes error)
    (exclusion : error.isExclusion = true)
    (separated : discipline.IsSeparated)
    (fits : document.Fits discipline.types) :
    nodes.all (Node.holds engine document) = false := by
  have isInter := sound.isInter_of_fails fails exclusion
  obtain ⟨a, b, hasA, hasB, failure, hold⟩ := fails
  have merges := sound.merges a b hasA hasB
  rw [failure] at merges
  obtain ⟨_, excludes⟩ := merges exclusion
  rw [Bool.eq_false_iff]
  intro all
  obtain ⟨holdsA, holdsB⟩ := hold isInter (by rwa [List.all_map])
  have apart := excludes separated engine document fits
  rw [holdsA, holdsB] at apart
  cases apart

end IsSound
end MergeOperation

namespace Clauses

variable {clauses result : Clauses Node} {nodes : List Node} {occur : Occur}

/-- Which operators clauses were built from does not matter for their shape. -/
theorem IsShaped.withOperators
    (shaped : clauses.IsShaped)
    (operators : Operators) :
    { clauses with operators := operators }.IsShaped where
  keys occur := by
    cases occur
    · exact shaped.keys .must
    · exact shaped.keys .filter
    · exact shaped.keys .should
    · exact shaped.keys .mustNot
  members occur := by
    cases occur
    · exact shaped.members .must
    · exact shaped.members .filter
    · exact shaped.members .should
    · exact shaped.members .mustNot
  minimum := shaped.minimum

/-- Which operators clauses were built from does not matter for their
members. -/
theorem AreWellFormed.withOperators
    {law : Leaf → Prop}
    (formed : clauses.AreWellFormed law)
    (operators : Operators) :
    { clauses with operators := operators }.AreWellFormed law where
  shaped := formed.shaped.withOperators operators
  members occur := by
    cases occur
    · exact formed.members .must
    · exact formed.members .filter
    · exact formed.members .should
    · exact formed.members .mustNot

theorem holds_withOperators (operators : Operators) :
    (Node.clauses { clauses with operators := operators }).holds engine
      document =
      (Node.clauses clauses).holds engine document := by
  rw [Node.holds_clauses, Node.holds_clauses]
  rfl

/-- What well-formed clauses become when well-formed nodes are absorbed among
those of one kind. The verdicts are joined, provided that the discipline is
separated. -/
structure Gains (discipline : Discipline) (operation : MergeOperation)
    (occur : Occur)
    (clauses : Clauses Node) (nodes : List Node) (result : Clauses Node) :
      Prop where
  formed : result.AreWellFormed (Leaf.Keeps discipline)
  nonempty : clauses.isEmpty = false ∨ nodes ≠ [] → result.isEmpty = false
  others : ∀ other, other ≠ occur → result.bucket other = clauses.bucket other
  minimum : occur ≠ .should ∨ 1 ≤ clauses.minimumShould →
    result.minimumShould = clauses.minimumShould
  joins : discipline.IsSeparated → ∀ engine document,
    document.Fits discipline.types →
    clauses.Joins engine document operation occur
      (operation.joinAll (nodes.map (Node.holds engine document))) result

section Absorbing

variable (sound : operation.IsSound discipline property)
  (formed : clauses.AreWellFormed (Leaf.Keeps discipline))
  (given : ∀ member ∈ clauses.nodes occur, property member)
  (givenNodes : ∀ node ∈ nodes, property node)
include sound formed given givenNodes

/-- Absorbing nodes by a sound operation keeps clauses well-formed and joins the
verdicts. -/
theorem gains_of_absorbAll
    (absorbed : clauses.absorbAll occur operation nodes = .ok result) :
    clauses.Gains discipline operation occur nodes result := by
  have conditions : ∀ node ∈ nodes, node.isEmpty = false :=
    fun node isNode =>
      (sound.formed node (givenNodes node isNode)).isEmpty_eq_false
  have absorbs := absorbs_of_absorbAll sound.preserves given formed.shaped
    givenNodes conditions
    absorbed
  refine ⟨⟨absorbs.shaped, ?_⟩, absorbs.nonempty, absorbs.others,
    absorbs.minimum, ?_⟩
  · intro other node isMember
    by_cases same : other = occur
    · subst same
      exact sound.formed node (absorbs.property node isMember)
    · rw [Clauses.nodes, absorbs.others other same] at isMember
      exact formed.members other node isMember
  · intro separated engine document fits
    have joins := absorbs_of_absorbAll
      (sound.preserves_holds engine separated fits) given
      formed.shaped givenNodes conditions absorbed
    exact ⟨joins.joined, fun other differs =>
      congrArg Bucket.nodes (joins.others other differs),
      joins.minimum⟩

/-- Where a sound operation fails to absorb nodes for an exclusion, the
operation is intersection, and not all of the clauses and the nodes hold. -/
theorem excludes_of_absorbAll
    {error : Error}
    (refused : clauses.absorbAll occur operation nodes = .error error)
    (exclusion : error.isExclusion = true) :
    operation = .inter ∧
      (discipline.IsSeparated → ∀ engine document,
        document.Fits discipline.types →
        (clauses.nodes occur ++ nodes).all
          (Node.holds engine document) = false) := by
  have conditions : ∀ node ∈ nodes, node.isEmpty = false :=
    fun node isNode =>
      (sound.formed node (givenNodes node isNode)).isEmpty_eq_false
  constructor
  · exact sound.isInter_of_fails
      (fails_of_absorbAll sound.preserves given formed.shaped
      givenNodes conditions refused) exclusion
  · intro separated engine document fits
    have fails := fails_of_absorbAll
      (sound.preserves_holds engine separated fits) given
      formed.shaped givenNodes conditions refused
    exact sound.excludes_of_fails fails exclusion separated fits

end Absorbing

end Clauses

end SearchQuery
