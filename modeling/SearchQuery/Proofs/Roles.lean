import SearchQuery.Proofs.Alliances

/-!
# Where leaves of operands meet

Clauses that take in nodes keep what meets in them in order: the leaves among
them may meet others, those of one key refuse the same leaves, and an alliance
accepts what becomes of the clauses exactly where it accepts the clauses and the
nodes.
-/

namespace SearchQuery

namespace MergeOperation

theorem joinAll_eq_neutral_iff (operation : MergeOperation)
    (verdicts : List Bool) :
    operation.joinAll verdicts = operation.neutral ↔
      ∀ verdict ∈ verdicts, verdict = operation.neutral := by
  cases operation <;> simp [joinAll, neutral]

theorem join_eq_neutral_iff (operation : MergeOperation) (left right : Bool) :
    operation.join left right = operation.neutral ↔
      left = operation.neutral ∧ right = operation.neutral := by
  cases operation <;> simp [join, neutral]

/-- A property of nodes can be told by verdicts that are neutral where it
holds. -/
theorem exists_verdict (operation : MergeOperation) (holds : Node → Prop) :
    ∃ verdict : Node → Bool, ∀ node, verdict node = operation.neutral ↔
      holds node := by
  classical
  refine ⟨fun node => if holds node then operation.neutral
    else !operation.neutral,
    fun node => ?_⟩
  by_cases isTrue : holds node
  · simp [isTrue]
  · simp [isTrue]

end MergeOperation

namespace Siblings

variable {operation : MergeOperation} {members : List Node} {leaf : Leaf}

/-- A leaf with a key is among some nodes. -/
def At (nodes : List Node) (key : String) (leaf : Leaf) : Prop :=
  .leaf leaf ∈ nodes ∧ leaf.key = key

/-- A leaf that the members leave in its place parts from one of them. -/
theorem exists_member_of_sweep_apart
    (apart : sweep operation leaf members = .apart) :
    ∃ member, .leaf member ∈ members ∧ member.Parts operation leaf := by
  induction members with
  | nil => cases apart
  | cons first rest hypothesis =>
      have later : sweep operation leaf rest = .apart →
          ∃ member, .leaf member ∈ first :: rest ∧
            member.Parts operation leaf := by
        intro apart
        obtain ⟨member, isMember, parts⟩ := hypothesis apart
        exact ⟨member, List.mem_cons_of_mem _ isMember, parts⟩
      cases first with
      | clauses content =>
          rw [sweep] at apart
          split at apart
          · cases apart
          · exact later apart
      | leaf content =>
          rw [sweep] at apart
          split at apart
          · cases apart
          · rename_i both merges
            exact ⟨content, List.mem_cons_self, both, merges⟩
          · split at apart
            · cases apart
            · cases apart
            · exact later apart

end Siblings

namespace Siblings

variable {operation : MergeOperation} {property : Node → Prop}
  {members result : List Node}
  {node : Node}

/-- If what comes of two leaves has a property exactly where both do, then what
comes of a group and a node has it exactly where all of them do. -/
theorem forall_iff_of_absorb
    (holds : Node → Prop)
    (preserves : Preserves operation property fun _ => true)
    (shared : ∀ a b merged, property (.leaf a) → property (.leaf b) →
      Leaf.merge operation a b = .ok (.leaf merged) →
        (holds (.leaf merged) ↔ holds (.leaf a) ∧ holds (.leaf b)))
    (given : ∀ member ∈ members, property member)
    (givenNode : property node)
    (absorbed : absorb operation members node = .ok result) :
    (∀ member ∈ result, holds member) ↔ (∀ member ∈ members, holds member) ∧
      holds node := by
  obtain ⟨verdict, tells⟩ := operation.exists_verdict holds
  have joins : Preserves operation property verdict := by
    intro a b merged hasA hasB merges
    refine ⟨(preserves a b merged hasA hasB merges).1, ?_⟩
    have equal : ∀ left right third : Bool, (left = third ↔ right = third) →
        left = right := by
      decide
    apply equal _ _ operation.neutral
    rw [operation.join_eq_neutral_iff, tells, tells, tells]
    exact shared a b merged hasA hasB merges
  have joined := (absorb_ok joins given givenNode absorbed).2.2
  have neutral : operation.joinAll (result.map verdict) = operation.neutral ↔
      operation.joinAll (members.map verdict) = operation.neutral ∧
        verdict node = operation.neutral := by
    rw [joined, operation.join_eq_neutral_iff]
  simpa [operation.joinAll_eq_neutral_iff, tells] using neutral

end Siblings

/-- What becomes of some nodes when others come in: there is still a leaf if
there was one, and there are no fewer trees with clauses. -/
structure Siblings.Outlast (nodes others : List Node) : Prop where
  leaves : (∃ leaf, .leaf leaf ∈ nodes) → ∃ leaf, .leaf leaf ∈ others
  operators : nodes.countP Node.isOperator ≤ others.countP Node.isOperator

namespace Siblings.Outlast

variable {nodes others more : List Node}

theorem refl (nodes : List Node) : Outlast nodes nodes := ⟨id, Nat.le_refl _⟩

theorem trans (first : Outlast nodes others) (second : Outlast others more) :
    Outlast nodes more :=
  ⟨second.leaves ∘ first.leaves, first.operators.trans second.operators⟩

/-- One of several nodes is left only if it is a leaf. -/
theorem exists_leaf
    {node : Node}
    (outlast : Outlast nodes [node])
    (several : 2 ≤ nodes.length) :
    ∃ leaf, node = .leaf leaf := by
  by_cases leaves : ∃ leaf, .leaf leaf ∈ nodes
  · obtain ⟨leaf, isLeaf⟩ := outlast.leaves leaves
    exact ⟨leaf, (List.mem_singleton.mp isLeaf).symm⟩
  · have all : nodes.countP Node.isOperator = nodes.length := by
      rw [List.countP_eq_length]
      intro member isMember
      cases member with
      | leaf content => exact absurd ⟨content, isMember⟩ leaves
      | clauses content => rfl
    have most := outlast.operators.trans List.countP_le_length
    rw [all, List.length_singleton] at most
    omega

/-- Some nodes outlast none only if there are none. -/
theorem eq_nil (outlast : Outlast nodes []) : nodes = [] := by
  rw [List.eq_nil_iff_forall_not_mem]
  intro node isNode
  cases node with
  | leaf content =>
      obtain ⟨leaf, isLeaf⟩ := outlast.leaves ⟨content, isNode⟩
      cases isLeaf
  | clauses content =>
      have none := Nat.le_zero.mp outlast.operators
      rw [List.countP_eq_zero] at none
      exact none _ isNode rfl

end Siblings.Outlast

namespace Clauses

variable {clauses result : Clauses Node} {operation : MergeOperation}
  {occur : Occur}
  {member : Node}

/-- A group grows as if it were empty where there is none. -/
theorem grownGroup_eq_absorb (operation : MergeOperation) (bucket : Bucket Node)
    (node : Node) :
    grownGroup operation bucket node =
      Siblings.absorb operation ((bucket.find? node.key).getD []) node := by
  unfold grownGroup
  cases bucket.find? node.key with
  | some members => rfl
  | none =>
      cases node with
      | clauses content => rfl
      | leaf content =>
          have settles : Siblings.settle operation [] content none =
              .ok [.leaf content] :=
            Siblings.settle_eq_of_apart (.inl rfl)
          exact settles.symm

/-- The clauses of a kind outlast the coming in of another. -/
theorem outlast_of_absorb
    (grouped : clauses.AreGrouped)
    (memberGrouped : member.IsGrouped)
    (condition : member.isEmpty = false)
    (absorbed : clauses.absorb occur operation member = .ok result) :
    Siblings.Outlast (clauses.nodes occur) (result.nodes occur) := by
  have resultGrouped := grouped.absorb memberGrouped absorbed
  obtain ⟨grown, grows, rfl⟩ := exists_put_of_absorb condition absorbed
  obtain ⟨rest, before, after⟩ := exists_rest_put clauses occur member.key grown
  have isGroup := Bucket.mem_set_self member.key grown (clauses.bucket occur)
  rw [← bucket_put_self] at isGroup
  cases member with
  | clauses content =>
      rw [grownGroup_eq_absorb] at grows
      cases grows
      constructor
      · rintro ⟨leaf, isLeaf⟩
        rw [before.mem_iff] at isLeaf
        exact ⟨leaf, after.symm.subset (by simpa [or_assoc] using isLeaf)⟩
      · rw [before.countP_eq, after.countP_eq, List.countP_append,
          List.countP_append, List.countP_append]
        omega
  | leaf leaf =>
      have unlike : ∀ node : Node, node.key = (Node.leaf leaf).key →
          node.isOperator = false := by
        intro node sameKey
        cases node with
        | leaf content => rfl
        | clauses content => cases sameKey
      constructor
      · intro _
        obtain ⟨node, isNode⟩ :=
          List.exists_mem_of_ne_nil _
            (resultGrouped.shaped.members occur _ isGroup)
        have isLeaf :=
          unlike node ((resultGrouped.mem_members_iff isGroup).mp isNode).2
        cases node with
        | leaf content =>
            exact ⟨content, after.symm.subset (List.mem_append_left _ isNode)⟩
        | clauses content => cases isLeaf
      · have found :
            ((Bucket.find? (Node.leaf leaf).key (clauses.bucket occur)).getD
              []).countP
            Node.isOperator = 0 := by
          rw [List.countP_eq_zero]
          intro node isFound
          rw [unlike node (grouped.isMember_of_find? isFound).keyed]
          exact Bool.false_ne_true
        rw [before.countP_eq, after.countP_eq, List.countP_append,
          List.countP_append, found]
        omega

end Clauses

namespace Gathering

variable (gathering : Gathering)

/-- The leaves among some nodes may meet others in a role. -/
def Admits (role : Role) (nodes : List Node) : Prop :=
  ∀ leaf, .leaf leaf ∈ nodes → gathering.Attends role leaf.key leaf

/-- The leaves of one key among some nodes refuse the same leaves. -/
def Levels (role : Role) (nodes : List Node) : Prop :=
  ∀ key, gathering.IsLevel role key (Siblings.At nodes key)

/-- There is an alliance for every key. -/
def AreAlliances (alliances : Role → String → Leaf → Prop) (role : Role) :
    Prop :=
  ∀ key, gathering.IsAlliance role key (alliances role key)

/-- The leaves among some nodes are in the alliances for their keys. -/
def Accepts (alliances : Role → String → Leaf → Prop) (role : Role)
    (nodes : List Node) : Prop :=
  ∀ leaf, .leaf leaf ∈ nodes → alliances role leaf.key leaf

/-- A node may come into the group of a key among clauses of a kind. -/
structure Joins (occur : Occur) (key : MergeKey) (node : Node) : Prop where
  settles : node.Settles gathering.discipline occur
  keyed : node.key = key
  admitted : gathering.Admits occur.role [node]

/-- What becomes of clauses that take in nodes among those of one kind. -/
structure Takes (occur : Occur) (clauses : Clauses Node) (nodes : List Node)
    (result : Clauses Node) : Prop where
  settled : result.AreSettled gathering.discipline
  admits : gathering.Admits occur.role (result.nodes occur)
  levels : gathering.Levels occur.role (result.nodes occur)
  accepts : ∀ alliances, gathering.AreAlliances alliances occur.role →
    (Accepts alliances occur.role (result.nodes occur) ↔
      Accepts alliances occur.role (clauses.nodes occur ++ nodes))
  outlast : Siblings.Outlast (clauses.nodes occur) (result.nodes occur)
  others : ∀ other, other ≠ occur → result.bucket other = clauses.bucket other
  minimum : result.minimumShould = clauses.minimumShould

variable {gathering} {alliances : Role → String → Leaf → Prop} {occur : Occur}

/-- Alliances accept some nodes if they accept each of them. -/
theorem accepts_iff {role : Role} {nodes : List Node} :
    Accepts alliances role nodes ↔
      ∀ node ∈ nodes, Accepts alliances role [node] := by
  constructor
  · intro accepts node isNode leaf isLeaf
    rw [← List.mem_singleton.mp isLeaf] at isNode
    exact accepts leaf isNode
  · intro accepts leaf isLeaf
    exact accepts (.leaf leaf) isLeaf leaf (List.mem_singleton_self _)

theorem accepts_append_iff {role : Role} {nodes others : List Node} :
    Accepts alliances role (nodes ++ others) ↔
      Accepts alliances role nodes ∧ Accepts alliances role others := by
  simp only [Accepts, List.mem_append, or_imp, forall_and]

theorem accepts_perm {role : Role} {nodes others : List Node}
    (permutes : nodes.Perm others) :
    Accepts alliances role nodes ↔ Accepts alliances role others := by
  simp only [Accepts, permutes.mem_iff]

theorem Joins.attends
    {key : MergeKey}
    {leaf : Leaf}
    (joins : gathering.Joins occur key (.leaf leaf)) :
    gathering.Attends occur.role leaf.key leaf :=
  joins.admitted leaf (List.mem_singleton_self _)

section Absorbing

variable {clauses result : Clauses Node} {member : Node} {nodes : List Node}
  (tight : gathering.discipline.tight = true)
  (stable : Leaf.IsStable (Leaf.IsSound gathering.discipline))
  (steady : ∀ key, gathering.IsOpen occur.role key ∨
    gathering.IsEven occur.role key)
include stable

/-- What comes of two leaves in a group may come into it as well. -/
theorem preserves_joins (occur : Occur) (key : MergeKey) :
    Siblings.Preserves occur.operation (gathering.Joins occur key)
      fun _ => true := by
  intro a b merged joinsA joinsB merges
  have sameKey : b.key = a.key :=
    MergeKey.field.inj (joinsB.keyed.trans joinsA.keyed.symm)
  obtain ⟨settles, joined⟩ :=
    Clauses.preserves_settles stable occur.operation occur a b merged
      joinsA.settles joinsB.settles merges
  rw [← occur.operation_role] at merges
  have attends :=
    joinsA.attends.merged stable (sameKey ▸ joinsB.attends) merges
  refine ⟨⟨settles, (congrArg MergeKey.field attends.keyed).trans joinsA.keyed,
    fun leaf isLeaf => ?_⟩, joined⟩
  cases List.mem_singleton.mp isLeaf
  exact attends.keyed.symm ▸ attends

include tight steady

/-- What comes of two leaves in a group is in an alliance exactly where both of
them are. -/
theorem accepts_merged_iff
    {key : MergeKey}
    {a b merged : Leaf}
    (areAlliances : gathering.AreAlliances alliances occur.role)
    (joinsA : gathering.Joins occur key (.leaf a))
    (joinsB : gathering.Joins occur key (.leaf b))
    (merges : Leaf.merge occur.operation a b = .ok (.leaf merged)) :
    Accepts alliances occur.role [.leaf merged] ↔
      Accepts alliances occur.role [.leaf a] ∧
        Accepts alliances occur.role [.leaf b] := by
  have sameKey : b.key = a.key :=
    MergeKey.field.inj (joinsB.keyed.trans joinsA.keyed.symm)
  have attendsB := sameKey ▸ joinsB.attends
  rw [← occur.operation_role] at merges
  have keyed := (joinsA.attends.merged stable attendsB merges).keyed
  simpa [Accepts, keyed, sameKey] using (areAlliances a.key).merged_iff tight
    stable (steady a.key) joinsA.attends attendsB merges

omit tight in
/-- The members of a group refuse the same leaves after a leaf has settled in
it. -/
theorem isLevel_of_settle
    {key : String}
    {members grown : List Node}
    {leaf : Leaf}
    {slot : Option Nat}
    (inside : ∀ position ∈ slot, position ≤ members.length)
    (joins : ∀ node ∈ members, gathering.Joins occur (.field key) node)
    (joinsLeaf : gathering.Joins occur (.field key) (.leaf leaf))
    (level : gathering.IsLevel occur.role key fun member =>
      .leaf member ∈ members)
    (settles : Siblings.settle occur.operation members leaf slot = .ok grown) :
    gathering.IsLevel occur.role key fun member => .leaf member ∈ grown := by
  have attendsOf : ∀ {leaf : Leaf},
      gathering.Joins occur (.field key) (.leaf leaf) →
        gathering.Attends occur.role key leaf := by
    intro leaf joins
    cases joins.keyed
    exact joins.attends
  fun_induction Siblings.settle occur.operation members leaf slot with
  | case1 members leaf slot position merged found hypothesis =>
      obtain ⟨member, isMember, merges⟩ :=
        Siblings.exists_member_of_sweep_collapsed found
      have bound := Siblings.sweep_position_lt found
      refine hypothesis ?_
        (fun node isNode => joins node (List.mem_of_mem_eraseIdx isNode))
        (preserves_joins stable occur (.field key) member leaf merged
          (joins _ (List.mem_of_getElem? isMember)) joinsLeaf merges).1
        (fun a b c isA isB => level a b c (List.mem_of_mem_eraseIdx isA)
          (List.mem_of_mem_eraseIdx isB)) settles
      intro next isNext
      cases isNext
      rw [List.length_eraseIdx, if_pos bound]
      cases slot <;> simp only [Option.elim] <;> omega
  | case2 => cases settles
  | case3 members leaf slot found =>
      cases settles
      have only : ∀ member,
          .leaf member ∈ Siblings.place members leaf slot → member = leaf := by
        intro member isMember
        rcases List.mem_cons.mp ((Siblings.place_perm inside).subset isMember)
          with same | isMember
        · exact Node.leaf.inj same
        · exact absurd (Siblings.sweep_eq_untried_iff.mp found _ isMember)
            Bool.false_ne_true
      intro a b c isA isB _ _ _
      rw [only a isA, only b isB]
  | case4 members leaf slot found =>
      cases settles
      have within : ∀ member,
          .leaf member ∈ Siblings.place members leaf slot →
            member = leaf ∨ .leaf member ∈ members := fun member isMember =>
        (List.mem_cons.mp ((Siblings.place_perm inside).subset
          isMember)).imp_left Node.leaf.inj
      rcases steady key with isOpen | even
      · refine isOpen.isLevel fun member isMember => attendsOf ?_
        rcases within member isMember with rfl | isMember
        · exact joinsLeaf
        · exact joins _ isMember
      · obtain ⟨beside, isBeside, parts⟩ :=
          Siblings.exists_member_of_sweep_apart found
        rw [← occur.operation_role] at parts
        have insert := even.isLevel_insert level (attendsOf (joins _ isBeside))
          (attendsOf joinsLeaf) isBeside parts
        exact fun a b c isA isB =>
          insert a b c (within a isA) (within b isB)

/-- The group of a node takes it in where alliances accept the members and the
node. -/
theorem exists_grown_of_accepts
    {members : List Node}
    (areAlliances : gathering.AreAlliances alliances occur.role)
    (joins : ∀ node ∈ members, gathering.Joins occur member.key node)
    (joinsMember : gathering.Joins occur member.key member)
    (accepts : Accepts alliances occur.role (members ++ [member])) :
    ∃ grown, Siblings.absorb occur.operation members member = .ok grown := by
  cases absorbed : Siblings.absorb occur.operation members member with
  | ok grown => exact ⟨grown, rfl⟩
  | error error =>
      rw [accepts_append_iff] at accepts
      have preserves : Siblings.Preserves occur.operation (fun node =>
          gathering.Joins occur member.key node ∧
            Accepts alliances occur.role [node])
          fun _ => true := by
        intro a b merged hasA hasB merges
        obtain ⟨joinsMerged, joined⟩ :=
          preserves_joins stable occur _ a b merged hasA.1 hasB.1 merges
        exact ⟨⟨joinsMerged, (accepts_merged_iff tight stable steady
          areAlliances hasA.1 hasB.1 merges).mpr ⟨hasA.2, hasB.2⟩⟩, joined⟩
      obtain ⟨a, b, hasA, hasB, failure, _⟩ := Siblings.absorb_error preserves
        (fun node isNode =>
          ⟨joins node isNode, accepts_iff.mp accepts.1 node isNode⟩)
        ⟨joinsMember, accepts.2⟩ absorbed
      have sameKey : b.key = a.key :=
        MergeKey.field.inj (hasB.1.keyed.trans hasA.1.keyed.symm)
      rw [← occur.operation_role] at failure
      exact absurd (.inl ⟨error, failure⟩) ((areAlliances a.key).peace a b
        (hasA.2 a (List.mem_singleton_self _))
        (sameKey ▸ hasB.2 b (List.mem_singleton_self _)))

end Absorbing

variable {clauses result : Clauses Node} {member : Node} {nodes : List Node}

/-- A node that settles among clauses of a kind may come into the group of its
key, if its leaf may meet others there. -/
theorem joins_of_settles
    (settle : ∀ node ∈ nodes, node.Settles gathering.discipline occur)
    (admits : gathering.Admits occur.role nodes)
    (isMember : member ∈ nodes) :
    gathering.Joins occur member.key member := by
  refine ⟨settle member isMember, rfl, fun leaf isLeaf => ?_⟩
  rw [← List.mem_singleton.mp isLeaf] at isMember
  exact admits leaf isMember

/-- The members of a group may come into it. -/
theorem joins_of_find?
    {key : MergeKey}
    (settled : clauses.AreSettled gathering.discipline)
    (admits : gathering.Admits occur.role (clauses.nodes occur))
    (isFound : member ∈ (Bucket.find? key (clauses.bucket occur)).getD []) :
    gathering.Joins occur key member := by
  have isMember : member ∈ clauses.nodes occur := by
    obtain ⟨rest, before, -⟩ := Clauses.exists_rest_put clauses occur key []
    exact before.symm.subset (List.mem_append_left _ isFound)
  have keyed := (settled.grouped.isMember_of_find? isFound).keyed
  exact keyed ▸
    joins_of_settles (fun _ => settled.settles_of_mem) admits isMember

section Absorbing

variable (tight : gathering.discipline.tight = true)
  (stable : Leaf.IsStable (Leaf.IsSound gathering.discipline))
  (steady : ∀ key, gathering.IsOpen occur.role key ∨
    gathering.IsEven occur.role key)
  (settled : clauses.AreSettled gathering.discipline)
  (raised : occur ≠ .should ∨ 1 ≤ clauses.minimumShould)
  (admits : gathering.Admits occur.role (clauses.nodes occur))
  (levels : gathering.Levels occur.role (clauses.nodes occur))
include stable steady settled admits

/-- The leaves of each key among the clauses of a kind refuse the same leaves
after a node has come in. -/
theorem levels_of_absorb
    (levels : gathering.Levels occur.role (clauses.nodes occur))
    (joins : gathering.Joins occur member.key member)
    (absorbed : clauses.absorb occur occur.operation member = .ok result) :
    gathering.Levels occur.role (result.nodes occur) := by
  have condition := joins.settles.belongs.normal.wellFormed.isEmpty_eq_false
  have resultGrouped := settled.grouped.absorb joins.settles.grouped absorbed
  obtain ⟨grown, grows, rfl⟩ := Clauses.exists_put_of_absorb condition absorbed
  obtain ⟨rest, before, after⟩ :=
    Clauses.exists_rest_put clauses occur member.key grown
  have isGroup := Bucket.mem_set_self member.key grown (clauses.bucket occur)
  rw [← Clauses.bucket_put_self] at isGroup
  rw [Clauses.grownGroup_eq_absorb] at grows
  intro key
  by_cases sameKey : member.key = .field key
  · cases member with
    | clauses content => cases sameKey
    | leaf leaf =>
        rw [sameKey] at joins grows
        have level := isLevel_of_settle stable steady (by simp)
          (fun node => joins_of_find? settled admits) joins
          (fun a b c isA isB => levels key a b c
            ⟨before.symm.subset (List.mem_append_left _ (sameKey ▸ isA)),
              MergeKey.field.inj (joins_of_find? settled admits isA).keyed⟩
            ⟨before.symm.subset (List.mem_append_left _ (sameKey ▸ isB)),
              MergeKey.field.inj (joins_of_find? settled admits isB).keyed⟩)
          grows
        refine fun a b c isA isB => level a b c ?_ ?_
        · exact (resultGrouped.mem_members_iff isGroup).mpr
            ⟨isA.1, (congrArg MergeKey.field isA.2).trans sameKey.symm⟩
        · exact (resultGrouped.mem_members_iff isGroup).mpr
            ⟨isB.1, (congrArg MergeKey.field isB.2).trans sameKey.symm⟩
  · have unchanged : ∀ leaf, Siblings.At ((clauses.put occur member.key
        grown).nodes occur) key leaf →
          Siblings.At (clauses.nodes occur) key leaf := by
      rintro leaf ⟨isThere, keyed⟩
      refine ⟨?_, keyed⟩
      rcases List.mem_append.mp (after.subset isThere) with isGrown | isRest
      · have grownKey :=
          ((resultGrouped.mem_members_iff isGroup).mp isGrown).2
        exact absurd (grownKey.symm.trans (congrArg MergeKey.field keyed))
          sameKey
      · exact before.symm.subset (List.mem_append_right _ isRest)
    exact fun a b c isA isB => levels key a b c (unchanged a isA)
      (unchanged b isB)

include tight raised levels

/-- Clauses that take in one node. -/
theorem takes_of_absorb
    (joins : gathering.Joins occur member.key member)
    (absorbed : clauses.absorb occur occur.operation member = .ok result) :
    gathering.Takes occur clauses [member] result := by
  have condition := joins.settles.belongs.normal.wellFormed.isEmpty_eq_false
  have resultSettled :=
    settled.absorb stable raised joins.settles absorbed
  have resultLevels :=
    levels_of_absorb stable steady settled admits levels joins absorbed
  have outlast :=
    Clauses.outlast_of_absorb settled.grouped joins.settles.grouped
      condition absorbed
  obtain ⟨grown, grows, rfl⟩ := Clauses.exists_put_of_absorb condition absorbed
  obtain ⟨rest, before, after⟩ :=
    Clauses.exists_rest_put clauses occur member.key grown
  rw [Clauses.grownGroup_eq_absorb] at grows
  have found := fun node (isFound : node ∈ (Bucket.find? member.key
    (clauses.bucket occur)).getD []) => joins_of_find? settled admits isFound
  have preserves := preserves_joins stable occur member.key
  refine ⟨resultSettled, ?_, resultLevels, fun alliances areAlliances => ?_,
    outlast, fun other differs => Clauses.bucket_put_of_ne _ _ _ _ differs,
    Clauses.minimumShould_put_of_raised _ _ _ _ raised⟩
  · intro leaf isLeaf
    rcases List.mem_append.mp (after.subset isLeaf) with isGrown | isRest
    · exact ((Siblings.absorb_ok preserves found joins grows).2.1 _
        isGrown).attends
    · exact admits leaf (before.symm.subset (List.mem_append_right _ isRest))
  · have grownAccepted := Siblings.forall_iff_of_absorb
      (fun node => Accepts alliances occur.role [node]) preserves
      (fun a b merged joinsA joinsB merges => accepts_merged_iff tight stable
        steady areAlliances joinsA joinsB merges)
          found joins grows
    rw [accepts_perm after, accepts_append_iff, accepts_append_iff,
      accepts_perm before, accepts_append_iff, accepts_iff, grownAccepted,
      ← accepts_iff]
    tauto

omit raised levels in
/-- Clauses take in one node where alliances accept them and the node. -/
theorem exists_absorb_of_accepts
    (areAlliances : gathering.AreAlliances alliances occur.role)
    (joins : gathering.Joins occur member.key member)
    (accepts : Accepts alliances occur.role (clauses.nodes occur ++ [member])) :
    ∃ result, clauses.absorb occur occur.operation member = .ok result := by
  have condition := joins.settles.belongs.normal.wellFormed.isEmpty_eq_false
  obtain ⟨rest, before, -⟩ :=
    Clauses.exists_rest_put clauses occur member.key []
  rw [accepts_append_iff, accepts_perm before, accepts_append_iff] at accepts
  obtain ⟨grown, grows⟩ := exists_grown_of_accepts tight stable steady
    areAlliances (fun node => joins_of_find? settled admits) joins
    (accepts_append_iff.mpr ⟨accepts.1.1, accepts.2⟩)
  rw [Clauses.absorb_eq_map_put clauses occur _ condition,
    Clauses.grownGroup_eq_absorb, grows]
  exact ⟨_, rfl⟩

omit settled raised admits levels in
/-- Clauses that take in nodes one after the other. -/
theorem takes_of_absorbAll
    (settled : clauses.AreSettled gathering.discipline)
    (raised : occur ≠ .should ∨ 1 ≤ clauses.minimumShould)
    (admits : gathering.Admits occur.role (clauses.nodes occur))
    (levels : gathering.Levels occur.role (clauses.nodes occur))
    (settle : ∀ node ∈ nodes, node.Settles gathering.discipline occur)
    (admitted : gathering.Admits occur.role nodes)
    (absorbed : clauses.absorbAll occur occur.operation nodes = .ok result) :
    gathering.Takes occur clauses nodes result := by
  induction nodes generalizing clauses with
  | nil =>
      cases absorbed
      refine ⟨settled, admits, levels, fun _ _ => ?_, .refl _, fun _ _ => rfl,
        rfl⟩
      rw [List.append_nil]
  | cons node rest hypothesis =>
      have joins := joins_of_settles settle admitted List.mem_cons_self
      obtain ⟨-, restSettle⟩ := List.forall_mem_cons.mp settle
      rw [Clauses.absorbAll, List.foldlM_cons] at absorbed
      obtain ⟨next, first, absorbed⟩ := exists_of_bind_eq_ok absorbed
      have one := takes_of_absorb tight stable steady settled raised admits
        levels joins first
      have others := hypothesis one.settled (one.minimum.symm ▸ raised)
        one.admits one.levels restSettle
        (fun leaf isLeaf =>
          admitted leaf (List.mem_cons_of_mem _ isLeaf)) absorbed
      refine ⟨others.settled, others.admits, others.levels,
        fun alliances areAlliances => ?_,
        one.outlast.trans others.outlast, fun other differs =>
        (others.others other differs).trans (one.others other differs),
        others.minimum.trans one.minimum⟩
      rw [others.accepts alliances areAlliances, accepts_append_iff,
        one.accepts alliances areAlliances, ← accepts_append_iff,
        List.append_assoc]
      rfl

omit settled raised admits levels in
/-- Clauses take in nodes where alliances accept them and the nodes. -/
theorem exists_absorbAll_of_accepts
    (areAlliances : gathering.AreAlliances alliances occur.role)
    (settled : clauses.AreSettled gathering.discipline)
    (raised : occur ≠ .should ∨ 1 ≤ clauses.minimumShould)
    (admits : gathering.Admits occur.role (clauses.nodes occur))
    (levels : gathering.Levels occur.role (clauses.nodes occur))
    (settle : ∀ node ∈ nodes, node.Settles gathering.discipline occur)
    (admitted : gathering.Admits occur.role nodes)
    (accepts : Accepts alliances occur.role (clauses.nodes occur ++ nodes)) :
    ∃ result, clauses.absorbAll occur occur.operation nodes = .ok result := by
  induction nodes generalizing clauses with
  | nil => exact ⟨clauses, rfl⟩
  | cons node rest hypothesis =>
      have joins := joins_of_settles settle admitted List.mem_cons_self
      obtain ⟨-, restSettle⟩ := List.forall_mem_cons.mp settle
      rw [List.append_cons, accepts_append_iff] at accepts
      obtain ⟨next, first⟩ := exists_absorb_of_accepts tight stable steady
        settled admits areAlliances joins accepts.1
      have one := takes_of_absorb tight stable steady settled raised admits
        levels joins first
      obtain ⟨result, absorbed⟩ := hypothesis one.settled
        (one.minimum.symm ▸ raised) one.admits one.levels restSettle
          (fun leaf isLeaf => admitted leaf (List.mem_cons_of_mem _ isLeaf))
        (accepts_append_iff.mpr
          ⟨(one.accepts alliances areAlliances).mpr accepts.1, accepts.2⟩)
      refine ⟨result, ?_⟩
      rw [Clauses.absorbAll, List.foldlM_cons, first]
      exact absorbed

end Absorbing
end Gathering

end SearchQuery
