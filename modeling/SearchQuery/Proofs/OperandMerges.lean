import SearchQuery.Proofs.Roles

/-!
# Merging operands by alliances

Two trees merge where some alliances accept both of them, and what they merge to
is accepted by exactly the alliances that accept both. This holds where no leaf
may be kept from a conflict by another one, nor by the shape of a tree.
-/

namespace SearchQuery

/-- Leaves that are the same have one key. -/
theorem Leaf.key_eq_of_same {a b : Leaf} (alike : a.same b = true) :
    a.key = b.key := by
  cases a <;> cases b <;> try cases alike
  case ids.ids => rfl
  case nothing.nothing => rfl
  case everything.everything => rfl
  case presence.presence a b =>
    rw [same, beq_iff_eq] at alike
    rw [alike]
  case queryText.queryText a b =>
    simp only [same, QueryText.same, Bool.and_eq_true, beq_iff_eq] at alike
    simp only [key, field?, alike]
  all_goals
    simp only [same, Term.same, ValueSet.same, Range.same, FullText.same,
      Phrase.same, Pattern.same, Bool.and_eq_true] at alike
    exact (Scope.field_and_type_eq_of_same (by tauto)).1

namespace Clauses

variable {clauses other : Clauses Node}

/-- Clauses are disjunctive if they are alternatives only, of which one is asked
for. -/
theorem isDisjunctive_iff (clauses : Clauses Node) :
    clauses.isDisjunctive = true ↔ clauses.bucket .should ≠ [] ∧
      (∀ occur, occur ≠ .should → clauses.bucket occur = []) ∧
        clauses.minimumShould ≤ 1 := by
  simp only [isDisjunctive, Bool.and_eq_true, Bool.not_eq_true',
    List.isEmpty_iff, List.isEmpty_eq_false_iff, decide_eq_true_eq]
  constructor
  · rintro ⟨⟨⟨⟨some, must⟩, filter⟩, mustNot⟩, low⟩
    refine ⟨some, fun occur differs => ?_, low⟩
    cases occur
    · exact must
    · exact filter
    · exact absurd rfl differs
    · exact mustNot
  · rintro ⟨some, others, low⟩
    exact ⟨⟨⟨⟨some, others .must (by decide)⟩, others .filter (by decide)⟩,
      others .mustNot (by decide)⟩, low⟩

/-- The alternatives of a disjunction are those of the tree that it makes,
unless a single tree with clauses is left. -/
theorem mem_standing_node_iff
    {leaf : Leaf}
    (disjunctive : clauses.isDisjunctive = true)
    (single : ∀ node, clauses.nodes .should = [node] →
      ∃ leaf, node = .leaf leaf) :
    .leaf leaf ∈ clauses.node.standing .alternative ↔
      .leaf leaf ∈ clauses.nodes .should := by
  have none : ∀ occur, occur ≠ .should → clauses.nodes occur = [] := by
    intro occur differs
    rw [nodes, ((isDisjunctive_iff clauses).mp disjunctive).2.1 occur differs]
    rfl
  rcases clauses.node_eq_clauses_or with stays | ⟨-, occur, -, only, -⟩
  · rw [stays, Node.standing, disjuncts, if_pos disjunctive]
  · have isShould : occur = .should := by
      by_contra differs
      rw [none occur differs] at only
      cases only
    subst isShould
    obtain ⟨content, isLeaf⟩ := single _ only
    rw [only, isLeaf]
    rfl

end Clauses

namespace Node

/-- Two nodes side by side under union are its alternatives. -/
theorem mem_nodes_either_iff
    {left right : Node}
    (kind : Occur)
    (node : Node)
    (conditionLeft : left.isEmpty = false)
    (conditionRight : right.isEmpty = false) :
    node ∈ ((Clauses.disjunction.add .should left).add .should right).nodes
      kind ↔ kind = .should ∧ (node = left ∨ node = right) := by
  have empty : (Clauses.disjunction : Clauses Node).nodes kind = [] := by
    cases kind <;> rfl
  rw [Clauses.mem_nodes_add_iff conditionRight,
    Clauses.mem_nodes_add_iff conditionLeft, empty]
  simp
  tauto

/-- Leaves in normal form stand as alternatives when they are put side by
side. -/
theorem mem_standing_either_iff
    {left right node : Node}
    (conditionLeft : left.isEmpty = false)
    (conditionRight : right.isEmpty = false) :
    node ∈ (either left right).standing .alternative ↔
      node = left ∨ node = right := by
  have disjunctive :
      ((Clauses.disjunction.add .should left).add .should right).isDisjunctive =
        true := by
    rw [Clauses.add_eq_put conditionRight, Clauses.add_eq_put conditionLeft,
      Clauses.isDisjunctive_iff]
    refine ⟨?_, fun occur differs => ?_, ?_⟩
    · rw [Clauses.bucket_put_self]
      exact Bucket.set_ne_nil _ _ _
    · rw [Clauses.bucket_put_of_ne _ _ _ _ differs,
        Clauses.bucket_put_of_ne _ _ _ _ differs]
      cases occur <;> rfl
    · rw [Clauses.minimumShould_put_of_raised _ _ _ _,
        Clauses.minimumShould_put_of_raised]
      · exact Nat.le_refl 1
      · exact .inr (Nat.le_refl 1)
      · rw [Clauses.minimumShould_put_of_raised]
        · exact .inr (Nat.le_refl 1)
        · exact .inr (Nat.le_refl 1)
  rw [either, standing, Clauses.disjuncts, if_pos disjunctive,
    mem_nodes_either_iff .should node conditionLeft conditionRight]
  exact and_iff_right rfl

/-- What stands side by side under intersection must hold. -/
theorem mem_standing_both_iff
    {left right node : Node}
    (conditionLeft : left.isEmpty = false)
    (conditionRight : right.isEmpty = false) :
    (node ∈ (both left right).standing .conjunct ↔ node = left ∨ node = right) ∧
      (both left right).standing .exclusion = [] := by
  have members :=
    fun kind member =>
      mem_nodes_conjuncts_iff kind member conditionLeft conditionRight
  have conjunctive : ∀ node : Node, node.conjunctOccur = .must ∨
      node.conjunctOccur = .filter := by
    intro node
    unfold conjunctOccur
    split
    · exact .inr rfl
    · exact .inl rfl
  rw [both, standing, standing]
  constructor
  · rw [List.mem_append, members, members]
    rcases conjunctive left with isLeft | isLeft <;>
      rcases conjunctive right with isRight | isRight <;>
        simp [isLeft, isRight, or_comm]
  · rw [List.eq_nil_iff_forall_not_mem]
    intro member isMember
    rw [members] at isMember
    rcases conjunctive left with isLeft | isLeft <;>
      rcases conjunctive right with isRight | isRight <;>
        simp [isLeft, isRight] at isMember

end Node

/-- The role in which a leaf meets others when trees are merged. -/
def MergeOperation.role : MergeOperation → Role
  | .union => .alternative
  | .inter => .conjunct

@[simp] theorem MergeOperation.operation_role (operation : MergeOperation) :
    operation.role.operation = operation := by
  cases operation <;> rfl

/-- Alternatives are asked for in the tree. -/
def Node.Branches : Node → Prop
  | .leaf _ => False
  | .clauses content => content.bucket .should ≠ []

theorem MergeOperation.role_mem_roles (operation : MergeOperation) :
    operation.role ∈ operation.roles := by
  cases operation <;> simp [role, roles]

/-- A leaf that meets others is in the tree. -/
theorem Node.isIn_of_mem_standing
    {role : Role}
    {node : Node}
    {leaf : Leaf}
    (isStanding : .leaf leaf ∈ node.standing role) :
    leaf.IsIn node := by
  cases node with
  | leaf content =>
      have isLeaf : Node.leaf leaf = .leaf content := by
        cases role <;> simp_all [standing]
      cases isLeaf
      exact .self
  | clauses content =>
      cases role with
      | alternative =>
          rw [standing, Clauses.disjuncts] at isStanding
          split at isStanding
          · exact .member isStanding .self
          · cases List.mem_singleton.mp isStanding
      | conjunct =>
          rcases List.mem_append.mp isStanding with isMember | isMember
          · exact .member isMember .self
          · exact .member isMember .self
      | exclusion => exact .member isStanding .self

/-- The leaves of two side by side are the two. -/
theorem Leaf.eq_or_eq_of_isIn_apart
    {operation : MergeOperation}
    {a b leaf : Leaf}
    (statedA : a.isNothing = false)
    (statedB : b.isNothing = false)
    (isIn : leaf.IsIn (operation.apart (.leaf a) (.leaf b))) :
    leaf = a ∨ leaf = b := by
  have member : ∃ member,
      (member = .leaf a ∨ member = .leaf b) ∧ leaf.IsIn member := by
    cases operation with
    | union =>
        cases isIn with
        | @member _ kind member isMember isIn =>
            exact ⟨member, ((@Node.mem_nodes_either_iff (.leaf a) (.leaf b)
              kind member statedA statedB).mp isMember).2, isIn⟩
    | inter =>
        cases isIn with
        | @member _ kind member isMember isIn =>
            refine ⟨member, ?_, isIn⟩
            rcases (@Node.mem_nodes_conjuncts_iff (.leaf a) (.leaf b) kind
              member statedA statedB).mp isMember with ⟨-, isA⟩ | ⟨-, isB⟩
            · exact .inl isA
            · exact .inr isB
  obtain ⟨_, rfl | rfl, isIn⟩ := member
  · cases isIn
    exact .inl rfl
  · cases isIn
    exact .inr rfl

namespace Gathering

variable (gathering : Gathering)

/-- No leaves that may meet in a merge refuse each other. -/
def IsLax (operation : MergeOperation) : Prop :=
  ∀ role ∈ operation.roles, ∀ key, gathering.IsOpen role key

/-- A settled tree whose leaves may meet those of others. -/
structure Enters (operation : MergeOperation) (node : Node) : Prop where
  settled : node.IsSettled gathering.discipline
  admits : ∀ role ∈ operation.roles, gathering.Admits role (node.standing role)
  levels : ∀ role ∈ operation.roles, gathering.Levels role (node.standing role)

/-- There are alliances for every role in which leaves meet. -/
def AreAllied (operation : MergeOperation)
    (alliances : Role → String → Leaf → Prop) : Prop :=
  ∀ role ∈ operation.roles, gathering.AreAlliances alliances role

/-- The leaves of a tree that would meet others are in the alliances. -/
def Passes (alliances : Role → String → Leaf → Prop)
    (operation : MergeOperation) (node : Node) : Prop :=
  ∀ role ∈ operation.roles, Accepts alliances role (node.standing role)

/-- No shape of two trees keeps a leaf from a conflict: under union nothing
takes in everything, and under intersection not both trees ask for
alternatives. -/
structure IsClear (operation : MergeOperation) (a b : Node) : Prop where
  unswallowed : operation = .union → gathering.IsLax operation ∨
    ∀ key leaf, gathering.family .alternative key leaf → leaf.isTrivial = false
  unnested : operation = .inter → gathering.IsLax operation ∨
    ¬(a.Branches ∧ b.Branches)

/-- A tree stands for two in what it does to others: its leaves may meet others,
and it passes the alliances that both pass. -/
structure Unites (operation : MergeOperation) (a b merged : Node) : Prop where
  admits :
    ∀ role ∈ operation.roles, gathering.Admits role (merged.standing role)
  levels :
    ∀ role ∈ operation.roles, gathering.Levels role (merged.standing role)
  passes : ∀ alliances, gathering.AreAllied operation alliances →
    (Passes alliances operation merged ↔
      Passes alliances operation a ∧ Passes alliances operation b)
  branches : operation = .inter → merged.Branches → a.Branches ∨ b.Branches

/-- Alliances decide the outcome of a merge. -/
structure Decides (operation : MergeOperation) (a b : Node)
    (outcome : Except Error Node) : Prop where
  succeeds : ∀ alliances, gathering.AreAllied operation alliances →
    Passes alliances operation a → Passes alliances operation b →
      ∃ merged, outcome = .ok merged
  unites : ∀ merged, outcome = .ok merged →
    gathering.Unites operation a b merged

variable {gathering} {alliances : Role → String → Leaf → Prop}
  {operation : MergeOperation}
  {a b merged : Node} {outcome : Except Error Node}
  {left right leaf result : Leaf}

theorem IsClear.symm (clear : gathering.IsClear operation a b) :
    gathering.IsClear operation b a :=
  ⟨clear.unswallowed, fun isInter =>
    (clear.unnested isInter).imp_right (mt And.symm)⟩

theorem Unites.symm (unites : gathering.Unites operation a b merged) :
    gathering.Unites operation b a merged :=
  ⟨unites.admits, unites.levels,
    fun alliances allied => (unites.passes alliances allied).trans and_comm,
    fun isInter branches => (unites.branches isInter branches).symm⟩

theorem Decides.symm (decides : gathering.Decides operation a b outcome) :
    gathering.Decides operation b a outcome :=
  ⟨fun alliances allied passesB passesA =>
    decides.succeeds alliances allied passesA passesB,
    fun merged success => (decides.unites merged success).symm⟩

theorem Unites.decides (unites : gathering.Unites operation a b merged) :
    gathering.Decides operation a b (.ok merged) := by
  refine ⟨fun _ _ _ _ => ⟨merged, rfl⟩, ?_⟩
  rintro _ ⟨⟩
  exact unites

theorem IsLax.passes
    (lax : gathering.IsLax operation)
    (allied : gathering.AreAllied operation alliances)
    (enters : gathering.Enters operation a) :
    Passes alliances operation a :=
  fun role isRole leaf isLeaf => (allied role isRole leaf.key).of_isOpen
    (lax role isRole leaf.key) (enters.admits role isRole leaf isLeaf)

/-- One of two trees stands for both where it passes the alliances that both
pass. -/
theorem unites_left
    (enters : gathering.Enters operation a)
    (passes : ∀ alliances, gathering.AreAllied operation alliances →
      Passes alliances operation a → Passes alliances operation b) :
    gathering.Unites operation a b a :=
  ⟨enters.admits, enters.levels, fun alliances allied =>
    ⟨fun passesA => ⟨passesA, passes alliances allied passesA⟩, And.left⟩,
    fun _ => .inl⟩

/-- The leaves of each key among nodes with two leaves refuse the same leaves
if the two do. -/
theorem levels_of_two
    {role : Role}
    {nodes : List Node}
    (only : ∀ leaf, .leaf leaf ∈ nodes → leaf = left ∨ leaf = right)
    (alike : left.key = right.key → left.isBroad = false →
      right.isBroad = false → ∀ c, gathering.Attends role left.key c →
        (left.Clashes role.operation c ↔ right.Clashes role.operation c)) :
    gathering.Levels role nodes := by
  rintro key a b c ⟨isA, keyA⟩ ⟨isB, keyB⟩ narrowA narrowB attends
  rcases only a isA with rfl | rfl
  · rcases only b isB with rfl | rfl
    · exact .rfl
    · exact alike (keyA.trans keyB.symm) narrowA narrowB c (keyA ▸ attends)
  · rcases only b isB with rfl | rfl
    · exact (alike (keyB.trans keyA.symm) narrowB narrowA c
        (keyB ▸ attends)).symm
    · exact .rfl

/-- A tree with at most one leaf is level. -/
theorem levels_of_one
    {role : Role}
    {nodes : List Node}
    (only : ∀ leaf, .leaf leaf ∈ nodes → leaf = left) :
    gathering.Levels role nodes :=
  levels_of_two (fun leaf isLeaf => .inl (only leaf isLeaf))
    fun _ _ _ _ _ => Iff.rfl

section Leaves

variable {role : Role}

theorem leaf_mem_standing_leaf_iff (isRole : role ∈ operation.roles) :
    .leaf leaf ∈ (Node.leaf left).standing role ↔ role = operation.role ∧
      leaf = left := by
  cases operation <;> cases role <;>
    simp [MergeOperation.roles, MergeOperation.role, Node.standing] at isRole ⊢

/-- Leaves side by side meet others in the role in which each of them does. -/
theorem leaf_mem_standing_apart_iff
    (conditionLeft : left.isNothing = false)
    (conditionRight : right.isNothing = false)
    (isRole : role ∈ operation.roles) :
    .leaf leaf ∈ (operation.apart (.leaf left) (.leaf right)).standing role ↔
      role = operation.role ∧ (leaf = left ∨ leaf = right) := by
  cases operation with
  | union =>
      cases List.mem_singleton.mp isRole
      have either := @Node.mem_standing_either_iff (.leaf left) (.leaf right)
        (.leaf leaf)
        conditionLeft conditionRight
      simpa [MergeOperation.role, MergeOperation.apart] using either
  | inter =>
      have both := @Node.mem_standing_both_iff (.leaf left) (.leaf right)
        (.leaf leaf)
        conditionLeft conditionRight
      simp only [MergeOperation.roles, List.mem_cons, List.not_mem_nil,
        or_false] at isRole
      rcases isRole with rfl | rfl
      · simpa [MergeOperation.role, MergeOperation.apart] using both.1
      · simp [MergeOperation.role, MergeOperation.apart, both.2]

/-- What a tree passes is told by the leaves that meet others. -/
theorem passes_iff_of_standing
    {among : Leaf → Prop}
    (standing : ∀ role ∈ operation.roles, ∀ leaf,
      .leaf leaf ∈ merged.standing role ↔ role = operation.role ∧ among leaf) :
    Passes alliances operation merged ↔
      ∀ leaf, among leaf → alliances operation.role leaf.key leaf := by
  have isRole := operation.role_mem_roles
  constructor
  · intro passes leaf isLeaf
    exact passes _ isRole leaf ((standing _ isRole leaf).mpr ⟨rfl, isLeaf⟩)
  · intro isIn role isRole leaf isLeaf
    obtain ⟨rfl, isAmong⟩ := (standing role isRole leaf).mp isLeaf
    exact isIn leaf isAmong

theorem passes_leaf_iff :
    Passes alliances operation (.leaf leaf) ↔
      alliances operation.role leaf.key leaf := by
  rw [passes_iff_of_standing fun role isRole leaf =>
    leaf_mem_standing_leaf_iff isRole,
    forall_eq]

theorem Enters.attends (enters : gathering.Enters operation (.leaf leaf)) :
    gathering.Attends operation.role leaf.key leaf := by
  have isRole := operation.role_mem_roles
  exact enters.admits _ isRole leaf
    ((leaf_mem_standing_leaf_iff isRole).mpr ⟨rfl, rfl⟩)

/-- A leaf that may meet others stands for two of which it passes the
alliances. -/
theorem unites_leaf
    (attends : gathering.Attends operation.role leaf.key leaf)
    (passes : ∀ alliances, gathering.AreAllied operation alliances →
      (alliances operation.role leaf.key leaf ↔
        Passes alliances operation a ∧ Passes alliances operation b)) :
    gathering.Unites operation a b (.leaf leaf) := by
  refine ⟨fun role isRole other isOther => ?_, fun role isRole => ?_,
    fun alliances allied => passes_leaf_iff.trans (passes alliances allied),
    fun _ => False.elim⟩
  · obtain ⟨rfl, rfl⟩ := (leaf_mem_standing_leaf_iff isRole).mp isOther
    exact attends
  · exact levels_of_one fun other isOther =>
      ((leaf_mem_standing_leaf_iff isRole).mp isOther).2

/-- Two nodes side by side ask for no alternatives under intersection. -/
theorem not_branches_both
    (conditionA : a.isEmpty = false)
    (conditionB : b.isEmpty = false) :
    ¬(Node.both a b).Branches := by
  have notAlternative : ∀ node : Node, node.conjunctOccur ≠ .should := by
    intro node isShould
    have isInter := node.operation_conjunctOccur
    rw [isShould] at isInter
    cases isInter
  have conjuncts : Node.both a b =
      .clauses ((Clauses.conjunction.add a.conjunctOccur a).add
    b.conjunctOccur b) := rfl
  rw [conjuncts, Node.Branches, not_not, Clauses.add_eq_put conditionB,
    Clauses.add_eq_put conditionA,
    Clauses.bucket_put_of_ne _ _ _ _ (notAlternative b).symm,
    Clauses.bucket_put_of_ne _ _ _ _ (notAlternative a).symm]
  rfl

/-- Leaves side by side stand for two that pass the same alliances. -/
theorem unites_apart
    {first second : Leaf}
    (attendsFirst : gathering.Attends operation.role first.key first)
    (attendsSecond : gathering.Attends operation.role second.key second)
    (alike : first.key = second.key → first.isBroad = false →
      second.isBroad = false → ∀ c,
        gathering.Attends operation.role first.key c →
          (first.Clashes operation.role.operation c ↔
            second.Clashes operation.role.operation c))
    (passes : ∀ alliances, gathering.AreAllied operation alliances →
      (alliances operation.role first.key first ∧
        alliances operation.role second.key second ↔
          Passes alliances operation a ∧ Passes alliances operation b)) :
    gathering.Unites operation a b
      (operation.apart (.leaf first) (.leaf second)) := by
  have statedFirst := attendsFirst.normal.condition_leaf
  have statedSecond := attendsSecond.normal.condition_leaf
  have standing := fun role (isRole : role ∈ operation.roles) leaf =>
    @leaf_mem_standing_apart_iff operation first second leaf role statedFirst
      statedSecond isRole
  refine ⟨fun role isRole leaf isLeaf => ?_, fun role isRole => ?_,
    fun alliances allied => ?_, fun isInter branches => ?_⟩
  · obtain ⟨rfl, rfl | rfl⟩ := (standing role isRole leaf).mp isLeaf
    · exact attendsFirst
    · exact attendsSecond
  · rintro key left right c ⟨isLeft, keyLeft⟩ isRight
    obtain ⟨rfl, -⟩ := (standing role isRole left).mp isLeft
    refine levels_of_two (fun leaf isLeaf =>
      ((standing _ isRole leaf).mp isLeaf).2) (fun sameKey => ?_) key left right
        c ⟨isLeft, keyLeft⟩ isRight
    exact alike sameKey
  · rw [passes_iff_of_standing standing, ← passes alliances allied]
    simp
  · subst isInter
    exact absurd branches (not_branches_both statedFirst statedSecond)

section Merging

variable (tight : gathering.discipline.tight = true)
  (stable : Leaf.IsStable (Leaf.IsSound gathering.discipline))
  (steady : gathering.IsSteady operation)
  (entersA : gathering.Enters operation (.leaf left))
  (entersB : gathering.Enters operation (.leaf right))
include entersA entersB

/-- A leaf that takes in another, or to which another gives way, stands for
both. -/
theorem passes_iff_of_isTrivial
    (clear : gathering.IsClear operation (.leaf left) (.leaf right))
    (trivial : (left.isTrivial || right.isTrivial) = true)
    (merges : Leaf.merge operation left right = .ok (.leaf result))
    (enters : gathering.Enters operation (.leaf result))
    (allied : gathering.AreAllied operation alliances) :
    Passes alliances operation (.leaf result) ↔
      Passes alliances operation (.leaf left) ∧
        Passes alliances operation (.leaf right) := by
  cases operation with
  | union =>
      rcases clear.unswallowed rfl with lax | none
      · exact iff_of_true (lax.passes allied enters)
          ⟨lax.passes allied entersA, lax.passes allied entersB⟩
      · rw [none _ left entersA.attends.family,
          none _ right entersB.attends.family] at trivial
        cases trivial
  | inter =>
      have isRole := MergeOperation.inter.role_mem_roles
      rw [passes_leaf_iff, passes_leaf_iff, passes_leaf_iff]
      rcases Leaf.eq_of_inter_of_isTrivial entersA.settled.normal.condition_leaf
        entersB.settled.normal.condition_leaf trivial merges with ⟨broad,
          rfl⟩ | ⟨broad, rfl⟩
      · exact (and_iff_right ((allied _ isRole left.key).of_isBroad
          entersA.attends broad)).symm
      · exact (and_iff_left ((allied _ isRole right.key).of_isBroad
          entersB.attends broad)).symm

include tight stable steady

/-- Leaves that are the same pass the same alliances. -/
theorem passes_iff_of_same_leaf
    (alike : left.same right = true)
    (allied : gathering.AreAllied operation alliances) :
    Passes alliances operation (.leaf left) ↔
      Passes alliances operation (.leaf right) := by
  have sameKey := Leaf.key_eq_of_same alike
  have isRole := operation.role_mem_roles
  rw [passes_leaf_iff, passes_leaf_iff, ← sameKey]
  exact (allied _ isRole left.key).same_iff tight stable
    (steady _ isRole left.key) entersA.attends
      (sameKey.symm ▸ entersB.attends) alike

/-- Leaves that stay side by side stand for the two that they come of. -/
theorem unites_of_apart
    {first second : Leaf}
    (sameKey : left.key = right.key)
    (success : Leaf.merge operation left right =
      .ok (operation.apart (.leaf first) (.leaf second)))
    (recastFirst : left.Recasts first ∨ right.Recasts first)
    (recastSecond : left.Recasts second ∨ right.Recasts second)
    (kept : (first = left ∧ second = right) ∨ (first = right ∧ second = left) ∨
      operation = .union ∧ left.isIds = right.isIds ∧
        (left.boost.equals right.boost = true ∨
          right.boost.equals left.boost = true)) :
    gathering.Unites operation (.leaf left) (.leaf right)
      (operation.apart (.leaf first) (.leaf second)) := by
  have isRole := operation.role_mem_roles
  have attendsA := entersA.attends
  have attendsB := sameKey.symm ▸ entersB.attends
  have akin : ∀ leaf : Leaf, left.Recasts leaf ∨ right.Recasts leaf →
      leaf.key = left.key ∧ leaf.isNothing = false := by
    rintro leaf (recast | recast)
    · have akin := recast.isAkin attendsA.normal.lawful_leaf.keeps.isFilled
      exact ⟨akin.key, akin.isNothing.trans attendsA.normal.condition_leaf⟩
    · have akin := recast.isAkin attendsB.normal.lawful_leaf.keeps.isFilled
      exact ⟨akin.key.trans sameKey.symm,
        akin.isNothing.trans attendsB.normal.condition_leaf⟩
  obtain ⟨keyFirst, statedFirst⟩ := akin first recastFirst
  obtain ⟨keySecond, statedSecond⟩ := akin second recastSecond
  have attends : ∀ leaf, leaf.key = left.key → leaf = first ∨ leaf = second →
      gathering.Attends operation.role left.key leaf := by
    intro leaf keyed isPart
    have isIn := Node.isIn_of_mem_standing
      ((leaf_mem_standing_apart_iff statedFirst statedSecond isRole).mpr
        ⟨rfl, isPart⟩)
    refine ⟨.merged attendsA.family attendsB.family ?_ isIn, ?_, keyed⟩
    · rw [operation.operation_role]
      exact success
    · exact (stable.merge operation left right _ attendsA.normal attendsB.normal
        success).leaf_of_isIn isIn
  have attendsFirst := attends first keyFirst (.inl rfl)
  have attendsSecond := attends second keySecond (.inr rfl)
  have parts : left.Parts operation.role.operation right :=
    operation.operation_role.symm ▸ Leaf.parts_of_apart success
  obtain ⟨alike, stand⟩ := stand_of_parts tight stable attendsA attendsB
    attendsFirst attendsSecond (steady _ isRole left.key) parts recastFirst
    recastSecond (operation.operation_role.symm ▸ kept)
  refine unites_apart (keyFirst.symm ▸ attendsFirst)
    (keySecond.symm ▸ attendsSecond) (fun _ _ _ => keyFirst.symm ▸ alike)
    fun alliances allied => ?_
  rw [passes_leaf_iff, passes_leaf_iff, keyFirst, keySecond, ← sameKey]
  exact stand _ (allied _ isRole left.key)

/-- Alliances decide the merge of leaves with one key. -/
theorem decides_mergeAtKey (sameKey : left.key = right.key) :
    gathering.Decides operation (.leaf left) (.leaf right)
      (Leaf.merge operation left right) := by
  have isRole := operation.role_mem_roles
  have attendsA := entersA.attends
  have attendsB := sameKey.symm ▸ entersB.attends
  constructor
  · intro alliances allied passesA passesB
    rw [passes_leaf_iff] at passesA passesB
    have peace := (allied _ isRole left.key).peace left right passesA
      (sameKey.symm ▸ passesB)
    rw [operation.operation_role] at peace
    cases merges : Leaf.merge operation left right with
    | ok node => exact ⟨node, rfl⟩
    | error error => exact absurd (.inl ⟨error, merges⟩) peace
  · intro merged success
    have outcome := Leaf.outcome_merge operation left right
    rw [success] at outcome
    cases outcome with
    | single =>
        rw [← operation.operation_role] at success
        have attends := attendsA.merged stable attendsB success
        refine unites_leaf (attends.keyed.symm ▸ attends)
          fun alliances allied => ?_
        rw [passes_leaf_iff, passes_leaf_iff, attends.keyed, ← sameKey]
        exact (allied _ isRole left.key).merged_iff tight stable
          (steady _ isRole left.key) attendsA attendsB success
    | apart recastFirst recastSecond kept =>
        exact unites_of_apart tight stable steady entersA entersB sameKey
          success recastFirst recastSecond kept

/-- Alliances decide the merge of leaves. -/
theorem decides_merge_leaf
    (clear : gathering.IsClear operation (.leaf left) (.leaf right)) :
    gathering.Decides operation (.leaf left) (.leaf right)
      (Leaf.merge operation left right) := by
  cases Leaf.merging operation left right with
  | left merges stands =>
      rw [merges]
      refine Unites.decides (unites_leaf entersA.attends
        fun alliances allied => passes_leaf_iff.symm.trans ?_)
      rcases stands with alike | trivial
      · rw [← passes_iff_of_same_leaf tight stable steady entersA entersB alike
          allied, and_self]
      · exact passes_iff_of_isTrivial entersA entersB clear trivial merges
          entersA allied
  | right merges trivial =>
      rw [merges]
      refine Unites.decides (unites_leaf entersB.attends
        fun alliances allied => passes_leaf_iff.symm.trans ?_)
      exact passes_iff_of_isTrivial entersA entersB clear trivial merges entersB
        allied
  | atKey _ sameKey =>
      exact decides_mergeAtKey tight stable steady entersA entersB sameKey
  | apart merges unlike =>
      rw [merges]
      refine (unites_apart entersA.attends entersB.attends
        (fun sameKey => absurd sameKey unlike) fun _ _ => ?_).decides
      rw [passes_leaf_iff, passes_leaf_iff]

end Merging
end Leaves
end Gathering

end SearchQuery
