import SearchQuery.Proofs.OperandTrees

/-!
# The order of operands

Whether a disjunction or a conjunction compiles does not depend on the order of
its operands, as long as their trees merge steadily: among the leaves that meet
under one key, those that stand side by side refuse the same ones. Where two
leaves refuse each other and a third parts from both, the order does matter.
-/

namespace SearchQuery

/-- What meets when some trees are merged: the leaves that each of them has in a
role. -/
def Gathering.ofNodes (discipline : Discipline) (nodes : List Node) :
    Gathering where
  discipline := discipline
  together role key a b := a.key = key ∧ b.key = key ∧ ∃ node ∈ nodes,
    .leaf a ∈ node.standing role ∧ .leaf b ∈ node.standing role

/-- Trees merge steadily: the leaves under a key that stand side by side refuse
the same ones, and nothing else keeps leaves from a conflict. -/
structure Node.AreSteady (discipline : Discipline) (operation : MergeOperation)
    (nodes : List Node) : Prop where
  steady : (Gathering.ofNodes discipline nodes).IsSteady operation
  clear :
    nodes.Pairwise ((Gathering.ofNodes discipline nodes).IsClear operation)

/-- Where no leaves refuse each other, trees merge steadily. -/
theorem Gathering.IsLax.areSteady
    {discipline : Discipline}
    {operation : MergeOperation}
    {nodes : List Node}
    (lax : (Gathering.ofNodes discipline nodes).IsLax operation) :
    Node.AreSteady discipline operation nodes :=
  ⟨fun role isRole key => .inl (lax role isRole key),
    List.pairwise_of_forall fun _ _ => ⟨fun _ => .inl lax, fun _ => .inl lax⟩⟩

section Agreeing

/-- A leaf keeps to a discipline, has a meaning and agrees with others. -/
def Leaf.Concurs (discipline : Discipline) (concord : Concord) (leaf : Leaf) :
    Prop :=
  leaf.Keeps discipline ∧ leaf.IsNeat ∧ leaf.Agrees concord

variable {discipline : Discipline} {concord : Concord} {engine : Engine}
  {document : StoredDocument} {operation : MergeOperation} {nodes : List Node}
  {gathering : Gathering} {role : Role} {key : String}

theorem Leaf.isStable_concurs
    (tight : discipline.tight = true)
    (probed : ∀ field, discipline.ordered field → discipline.probed field) :
    IsStable (Concurs discipline concord) :=
  (isLasting_isNeat.and (isLasting_agrees concord)).isStable tight probed

/-- Concurring leaves merge, if under intersection some document meets both. -/
theorem Leaf.exists_merge_of_isNormal
    (operation : MergeOperation)
    {a b : Leaf}
    (tight : discipline.tight = true)
    (normalA : (Node.leaf a).IsNormal (Concurs discipline concord))
    (normalB : (Node.leaf b).IsNormal (Concurs discipline concord))
    (compatible : operation = .inter → ∃ engine document,
      document.Fits discipline.types ∧
      (Node.leaf a).holds engine document = true ∧
        (Node.leaf b).holds engine document = true) :
    ∃ node, merge operation a b = .ok node := by
  obtain ⟨_, neatA, agreesA⟩ := normalA.lawful_leaf
  obtain ⟨_, neatB, agreesB⟩ := normalB.lawful_leaf
  exact exists_merge tight (normalA.wellFormed.mono fun _ => And.left)
    (normalB.wellFormed.mono fun _ => And.left) agreesA agreesB neatA neatB
      compatible

/-- What comes of leaves in normal form is in normal form. -/
theorem Leaf.isNormal_of_arises
    {law : Leaf → Prop}
    {given : Leaf → Prop}
    {leaf : Leaf}
    (stable : IsStable law)
    (normal : ∀ leaf, given leaf → (Node.leaf leaf).IsNormal law)
    (arises : Arises operation given leaf) :
    (Node.leaf leaf).IsNormal law := by
  induction arises with
  | given isGiven => exact normal _ isGiven
  | @merged a b _ _ _ _ merges isIn normalA normalB =>
      exact (stable.merge operation a b _ normalA normalB
        merges).leaf_of_isIn isIn

/-- Leaves that both hold for a document intersect to leaves that do. -/
theorem Leaf.holds_of_isIn_inter
    {a b leaf : Leaf}
    {node : Node}
    (tight : discipline.tight = true)
    (fits : document.Fits discipline.types)
    (normalA : (Node.leaf a).IsNormal (Concurs discipline concord))
    (normalB : (Node.leaf b).IsNormal (Concurs discipline concord))
    (holdsA : (Node.leaf a).holds engine document = true)
    (holdsB : (Node.leaf b).holds engine document = true)
    (merges : merge .inter a b = .ok node)
    (isIn : leaf.IsIn node) :
    (Node.leaf leaf).holds engine document = true := by
  have outcome := outcome_merge .inter a b
  rw [merges] at outcome
  cases outcome with
  | single =>
      cases isIn
      exact holds_of_merge_eq_ok tight
        (normalA.wellFormed.mono fun _ => And.left)
        (normalB.wellFormed.mono fun _ => And.left) fits holdsA holdsB merges
  | @apart left right _ _ parts =>
      have given : (left = a ∧ right = b) ∨ left = b ∧ right = a := by
        simpa using parts
      have stated : left.isNothing = false ∧ right.isNothing = false := by
        rcases given with ⟨rfl, rfl⟩ | ⟨rfl, rfl⟩
        · exact ⟨normalA.condition_leaf, normalB.condition_leaf⟩
        · exact ⟨normalB.condition_leaf, normalA.condition_leaf⟩
      have isPart := eq_or_eq_of_isIn_apart stated.1 stated.2 isIn
      rcases given with ⟨rfl, rfl⟩ | ⟨rfl, rfl⟩ <;>
        rcases isPart with rfl | rfl <;> assumption

section Opening

variable (tight : discipline.tight = true)
  (stable : Leaf.IsStable (Leaf.Concurs discipline concord))
  (normal : ∀ leaf, gathering.given role key leaf →
    (Node.leaf leaf).IsNormal (Leaf.Concurs discipline concord))
include tight stable normal

/-- Concurring leaves do not refuse each other under union. -/
theorem Gathering.isOpen_of_concurs (isUnion : role.operation = .union) :
    gathering.IsOpen role key := by
  intro a b familyA familyB
  refine Leaf.exists_merge_of_isNormal _ tight
    (Leaf.isNormal_of_arises stable normal familyA)
    (Leaf.isNormal_of_arises stable normal familyB) fun isInter => ?_
  rw [isUnion] at isInter
  cases isInter

/-- Concurring leaves that hold for one document do not refuse each other. -/
theorem Gathering.isOpen_of_holds
    (fits : document.Fits discipline.types)
    (holds : ∀ leaf, gathering.given role key leaf →
      (Node.leaf leaf).holds engine document = true)
    (isInter : role.operation = .inter) :
    gathering.IsOpen role key := by
  have normalOf :=
    fun leaf => @Leaf.isNormal_of_arises role.operation _ _ leaf stable normal
  have holdsOf : ∀ leaf, gathering.family role key leaf →
      (Node.leaf leaf).holds engine document = true := by
    intro leaf family
    induction family with
    | given isGiven => exact holds _ isGiven
    | @merged a b leaf node arisesA arisesB merges isIn holdsA holdsB =>
        rw [isInter] at merges
        exact Leaf.holds_of_isIn_inter tight fits (normalOf a arisesA)
          (normalOf b arisesB) holdsA
          holdsB merges isIn
  intro a b familyA familyB
  exact Leaf.exists_merge_of_isNormal _ tight (normalOf a familyA)
    (normalOf b familyB)
    fun _ => ⟨engine, document, fits, holdsOf a familyA, holdsOf b familyB⟩

end Opening

/-- The leaves of a tree that meet others are in normal form. -/
theorem Gathering.isNormal_of_given
    {law : Leaf → Prop}
    {leaf : Leaf}
    (normal : ∀ node ∈ nodes, node.IsNormal law)
    (given : (Gathering.ofNodes discipline nodes).given role key leaf) :
    (Node.leaf leaf).IsNormal law := by
  obtain ⟨-, -, node, isNode, isStanding, -⟩ := given
  exact (normal node isNode).leaf_of_isIn (Node.isIn_of_mem_standing isStanding)

/-- What must hold in a tree that holds does. -/
theorem Node.holds_of_mem_standing
    {node member : Node}
    (holds : node.holds engine document = true)
    (isStanding : member ∈ node.standing .conjunct) :
    member.holds engine document = true := by
  cases node with
  | leaf content =>
      rw [List.mem_singleton.mp isStanding]
      exact holds
  | clauses content =>
      rw [Clauses.holds_eq_and] at holds
      simp only [Bool.and_eq_true, List.all_eq_true] at holds
      rcases List.mem_append.mp isStanding with isMust | isFilter
      · exact holds.1.1 member isMust
      · exact holds.1.2.1 member isFilter

section Trees

variable (tight : discipline.tight = true)
  (stable : Leaf.IsStable (Leaf.Concurs discipline concord))
  (normal : ∀ node ∈ nodes, node.IsNormal (Leaf.Concurs discipline concord))
include tight stable normal

theorem Gathering.isLax_of_concurs :
    (Gathering.ofNodes discipline nodes).IsLax .union := by
  intro role isRole key
  cases List.mem_singleton.mp isRole
  exact isOpen_of_concurs tight stable (fun _ => isNormal_of_given normal) rfl

/-- Trees whose leaves concur and that all hold for one document do not refuse
each other. -/
theorem Gathering.isLax_of_holds
    (fits : document.Fits discipline.types)
    (holds : ∀ node ∈ nodes, node.holds engine document = true) :
    (Gathering.ofNodes discipline nodes).IsLax .inter := by
  intro role isRole key
  simp only [MergeOperation.roles, List.mem_cons, List.not_mem_nil, or_false]
    at isRole
  rcases isRole with rfl | rfl
  · have holdsGiven : ∀ leaf,
        (ofNodes discipline nodes).given .conjunct key leaf →
        (Node.leaf leaf).holds engine document = true := by
      rintro leaf ⟨-, -, node, isNode, isStanding, -⟩
      exact Node.holds_of_mem_standing (holds node isNode) isStanding
    exact isOpen_of_holds tight stable (fun _ => isNormal_of_given normal) fits
      holdsGiven rfl
  · exact isOpen_of_concurs tight stable (fun _ => isNormal_of_given normal) rfl

end Trees

end Agreeing

section Exact

/-- A leaf lists values of a field that holds one value, and is scored or not as
is said. -/
structure Leaf.IsExact (filter : Bool) (leaf : Leaf) : Prop where
  filled : leaf.IsFilled
  exact : ∃ scope values, leaf.exactValues? = some (scope, values) ∧
    scope.type.isArray = false ∧ scope.filter = filter

namespace Leaf

variable {filter : Bool} {operation : MergeOperation} {a b leaf result : Leaf}
  {node : Node}

/-- A leaf that is recast from an exact one is exact. -/
theorem IsExact.of_recasts
    (isExact : leaf.IsExact filter)
    (recast : leaf.Recasts result) :
    result.IsExact filter := by
  obtain ⟨scope, values, exact, single, scored⟩ := isExact.exact
  have smallest : ∀ set : ValueSet, set.values ≠ [] → set.toScope = scope →
      ∃ values, set.leaf.exactValues? = some (scope, values) := by
    intro set nonempty isScope
    rcases ValueSet.leaf_of_values_ne_nil nonempty with
      ⟨value, isTerm⟩ | ⟨isSet, -⟩
    · rw [isTerm, ← isScope]
      exact ⟨_, rfl⟩
    · rw [isSet, ← isScope]
      exact ⟨_, rfl⟩
  have found : ∃ values, result.exactValues? = some (scope, values) := by
    cases recast with
    | self => exact ⟨values, exact⟩
    | values isExactly nonempty =>
        cases exact.symm.trans isExactly
        exact smallest _ (ValueSet.arrange_ne_nil _
          (nonempty (isExact.filled.values_ne_nil exact))) rfl
    | smallest set =>
        cases exact
        exact smallest set (isExact.filled set rfl) rfl
    | range => cases exact
    | ids => cases exact
  obtain ⟨others, resultExact⟩ := found
  exact ⟨(recast.isAkin isExact.filled).filled, scope, others, resultExact,
    single, scored⟩

/-- A leaf that is given for equal weights does not stay beside another. -/
theorem agreed_leaf_ne
    {field : String}
    {left right : Binary64}
    {content : Clauses Node} :
    agreed field left right (Node.leaf leaf) ≠ .ok (.clauses content) := by
  unfold agreed agreeOnBoost
  split <;> simp [Except.map]

/-- Exact leaves with one key unite to one leaf or not at all. -/
theorem unionAtKey_ne_of_isExact
    {content : Clauses Node}
    (exactA : a.IsExact filter)
    (exactB : b.IsExact filter) :
    unionAtKey a b ≠ .ok (.clauses content) := by
  obtain ⟨_, _, isA, -⟩ := exactA.exact
  obtain ⟨_, _, isB, -⟩ := exactB.exact
  cases a <;> cases isA <;> cases b <;> cases isB <;> exact agreed_leaf_ne

/-- Exact leaves with one key intersect to one leaf or not at all. -/
theorem interAtKey_ne_of_isExact
    {content : Clauses Node}
    (exactA : a.IsExact filter)
    (exactB : b.IsExact filter) :
    interAtKey a b ≠ .ok (.clauses content) := by
  obtain ⟨_, _, isA, singleA, -⟩ := exactA.exact
  obtain ⟨_, _, isB, singleB, -⟩ := exactB.exact
  cases a <;> cases isA <;> cases b <;> cases isB <;> dsimp only [interAtKey]
  · unfold Term.inter
    rw [if_neg (Bool.eq_false_iff.mp singleA)]
    split <;> first | exact agreed_leaf_ne | simp
  · unfold ValueSet.interTerm
    rw [if_neg (Bool.eq_false_iff.mp singleB)]
    split <;> first | exact agreed_leaf_ne | simp
  · unfold ValueSet.interTerm
    rw [if_neg (Bool.eq_false_iff.mp singleA)]
    split <;> first | exact agreed_leaf_ne | simp
  · unfold ValueSet.inter
    rw [if_neg (Bool.eq_false_iff.mp singleA)]
    dsimp only
    split <;> first | exact agreed_leaf_ne | simp

/-- Exact leaves with one key do not stay side by side. -/
theorem IsExact.not_parts
    (exactA : a.IsExact filter)
    (exactB : b.IsExact filter)
    (sameKey : a.key = b.key) :
    ¬a.Parts operation b := by
  rintro ⟨content, parts⟩
  cases merging operation a b with
  | left merges => cases merges.symm.trans parts
  | right merges => cases merges.symm.trans parts
  | apart _ unlike => exact unlike sameKey
  | atKey merges =>
      rw [merges] at parts
      cases operation with
      | union => exact unionAtKey_ne_of_isExact exactA exactB parts
      | inter => exact interAtKey_ne_of_isExact exactA exactB parts

theorem IsExact.isFilter_eq (isExact : leaf.IsExact filter) :
    leaf.isBroad = false ∧ leaf.isFilter = filter := by
  obtain ⟨scope, values, exact, -, scored⟩ := isExact.exact
  cases leaf <;> cases exact
  · exact ⟨rfl, scored⟩
  · exact ⟨rfl, scored⟩

end Leaf

end Exact

section Closed

variable {discipline : Discipline} {operation : MergeOperation}
  {among : Leaf → Prop} {leaves : List Leaf}
  (within : ∀ leaf ∈ leaves, among leaf)
  (closed : ∀ a b node leaf, among a → among b → a.key = b.key →
    Leaf.merge operation a b = .ok node → leaf.IsIn node →
      among leaf ∧ leaf.key = a.key)
include within closed

/-- What meets when leaves are merged is of a kind of which all is that comes of
it. -/
theorem Leaf.among_of_family
    {role : Role}
    {key : String}
    {leaf : Leaf}
    (isRole : role ∈ operation.roles)
    (family : (Gathering.ofNodes discipline (leaves.map .leaf)).family role key
      leaf) :
    role = operation.role ∧ among leaf ∧ leaf.key = key := by
  induction family with
  | @given leaf isGiven =>
      obtain ⟨keyed, -, node, isNode, isStanding, -⟩ := isGiven
      obtain ⟨only, isLeaf, rfl⟩ := List.mem_map.mp isNode
      obtain ⟨rfl, rfl⟩ :=
        (Gathering.leaf_mem_standing_leaf_iff isRole).mp isStanding
      exact ⟨rfl, within _ isLeaf, keyed⟩
  | @merged a b leaf node _ _ merges isIn ofA ofB =>
      obtain ⟨rfl, amongA, keyA⟩ := ofA
      obtain ⟨-, amongB, keyB⟩ := ofB
      rw [operation.operation_role] at merges
      obtain ⟨isAmong, keyed⟩ := closed a b node leaf amongA amongB
        (keyA.trans keyB.symm) merges isIn
      exact ⟨rfl, isAmong, keyed.trans keyA⟩

/-- Leaves merge steadily if what comes of them is of a kind of which those that
stay side by side refuse the same leaves. -/
theorem Leaf.areSteady_of_closed
    (alike : ∀ a b c, among a → among b → among c → a.key = b.key →
      a.key = c.key → a.Parts operation b →
        (a.Clashes operation c ↔ b.Clashes operation c))
    (narrow : ∀ leaf, among leaf →
      leaf.isNothing = false ∧ leaf.isBroad = false)
    (scored : ∀ a b, among a → among b → a.isFilter = b.isFilter) :
    Node.AreSteady discipline operation (leaves.map .leaf) := by
  have amongOf := fun role key leaf isRole =>
    @Leaf.among_of_family discipline operation among leaves within closed role
      key leaf isRole
  refine ⟨fun role isRole key => .inr ⟨?_, ?_, ?_⟩, ?_⟩
  · rintro a b c familyA familyB familyC - - beside
    obtain ⟨rfl, amongA, keyA⟩ := amongOf role key a isRole familyA
    obtain ⟨-, amongB, keyB⟩ := amongOf _ key b isRole familyB
    obtain ⟨-, amongC, keyC⟩ := amongOf _ key c isRole familyC
    rcases beside with ⟨-, -, node, isNode, isA, isB⟩ | parts
    · obtain ⟨only, -, rfl⟩ := List.mem_map.mp isNode
      obtain ⟨-, rfl⟩ := (Gathering.leaf_mem_standing_leaf_iff isRole).mp isA
      obtain ⟨-, rfl⟩ := (Gathering.leaf_mem_standing_leaf_iff isRole).mp isB
      exact .rfl
    · rw [operation.operation_role] at parts ⊢
      exact alike a b c amongA amongB amongC (keyA.trans keyB.symm)
        (keyA.trans keyC.symm) parts
  · exact fun _ leaf family =>
      (narrow leaf (amongOf role key leaf isRole family).2.1).2
  · exact fun _ a b familyA familyB _ _ =>
      scored a b (amongOf role key a isRole familyA).2.1
        (amongOf role key b isRole familyB).2.1
  · refine List.pairwise_map.mpr (List.pairwise_of_forall fun _ _ =>
      ⟨fun isUnion => .inr fun key leaf family => ?_,
        fun _ => .inr And.left⟩)
    subst isUnion
    obtain ⟨-, isAmong, -⟩ :=
      amongOf .alternative key leaf (List.mem_singleton_self _) family
    obtain ⟨stated, isNarrow⟩ := narrow leaf isAmong
    exact Leaf.isTrivial_eq_false_of_narrow stated isNarrow

end Closed

/-- Leaves that list values of fields with one value merge steadily, if they are
scored all or not at all. -/
theorem Leaf.areSteady_of_isExact
    {discipline : Discipline}
    {operation : MergeOperation}
    {leaves : List Leaf}
    {filter : Bool}
    (exact : ∀ leaf ∈ leaves, leaf.IsExact filter) :
    Node.AreSteady discipline operation (leaves.map .leaf) := by
  refine areSteady_of_closed exact ?_ ?_ ?_ ?_
  · intro a b node leaf exactA exactB sameKey merges isIn
    have outcome := outcome_merge operation a b
    rw [merges] at outcome
    cases outcome with
    | apart =>
        exact absurd (parts_of_apart merges) (exactA.not_parts exactB sameKey)
    | single recast =>
        cases isIn
        rcases recast with recast | recast
        · exact ⟨exactA.of_recasts recast,
            (recast.isAkin exactA.filled).key⟩
        · exact ⟨exactB.of_recasts recast,
            (recast.isAkin exactB.filled).key.trans sameKey.symm⟩
  · intro a b c exactA exactB _ sameKey _ parts
    exact absurd parts (exactA.not_parts exactB sameKey)
  · intro leaf isExact
    refine ⟨?_, isExact.isFilter_eq.1⟩
    obtain ⟨scope, values, isScope, -⟩ := isExact.exact
    cases leaf <;> first | rfl | cases isScope
  · intro a b exactA exactB
    rw [exactA.isFilter_eq.2, exactB.isFilter_eq.2]

section Shelter

variable {operation : MergeOperation} {a b c : Leaf} {error : Error}

/-- Two nodes with one key that are appended to no clauses make a group. -/
theorem Clauses.find?_add_add
    {start : Clauses Node}
    {occur : Occur}
    (first second : Node)
    (empty : start.bucket occur = [])
    (statedFirst : first.isEmpty = false)
    (statedSecond : second.isEmpty = false)
    (sameKey : second.key = first.key) :
    Bucket.find? first.key
      (((start.add occur first).add occur second).bucket occur) =
      some [first, second] := by
  rw [add_eq_put statedSecond, bucket_put_self, add_eq_put statedFirst,
    bucket_put_self, empty]
  simp [Bucket.find?, Bucket.set, sameKey]

/-- A leaf that one member of a group refuses comes in beside another from which
it parts. -/
theorem Siblings.absorb_of_shelter
    (refuses : Leaf.merge operation a b = .error error)
    (parts : c.Parts operation b) :
    absorb operation [.leaf a, .leaf c] (.leaf b) =
      .ok [.leaf a, .leaf c, .leaf b] := by
  obtain ⟨content, beside⟩ := parts
  have found : sweep operation b [.leaf a, .leaf c] = .apart := by
    simp [sweep, refuses, beside]
  exact settle_eq_of_apart (.inr found)

/-- Clauses with a group of two leaves take in a third that parts from the
second. -/
theorem Clauses.exists_absorb_of_shelter
    {clauses : Clauses Node}
    {occur : Occur}
    (group : Bucket.find? (Node.leaf a).key (clauses.bucket occur) =
      some [.leaf a, .leaf c])
    (statedB : b.isNothing = false)
    (sameKey : b.key = a.key)
    (refuses : Leaf.merge operation a b = .error error)
    (parts : c.Parts operation b) :
    ∃ result, clauses.absorb occur operation (.leaf b) = .ok result := by
  have key : (Node.leaf b).key = (Node.leaf a).key :=
    congrArg MergeKey.field sameKey
  have condition : (Node.leaf b).isEmpty = false := statedB
  rw [absorb_eq_map_put clauses occur operation condition, grownGroup,
    key, group]
  simp only [Siblings.absorb_of_shelter refuses parts]
  exact ⟨_, rfl⟩

/-- A leaf that is not trivial unites with clauses and intersects with them. -/
theorem Node.merge_clauses_leaf (content : Clauses Node)
    (notTrivial : b.isTrivial = false) :
    (Node.clauses content).union (.leaf b) = content.unionLeaf b ∧
      (Node.clauses content).inter (.leaf b) = content.interLeaf b := by
  cases b <;> first
    | exact Bool.noConfusion (show true = false from notTrivial)
    | simp [Node.union, Node.inter, Node.same]

section Trees

variable (stated : a.isNothing = false ∧ b.isNothing = false ∧
  c.isNothing = false)
  (keyB : b.key = a.key) (keyC : c.key = a.key)
  (refuses : Leaf.merge operation a b = .error error)
  (beside : Leaf.merge operation a c =
    .ok (operation.apart (.leaf a) (.leaf c)))
  (parts : c.Parts operation b)
  (scored : operation = .inter → b.isFilter = a.isFilter ∧
    c.isFilter = a.isFilter)
include stated keyB keyC refuses parts scored

/-- A leaf comes in behind one from which it parts. -/
theorem Node.exists_merge_of_shelter :
    ∃ node, Node.merge operation (operation.apart (.leaf a) (.leaf c))
      (.leaf b) = .ok node := by
  have notTrivial : b.isTrivial =
      false := Leaf.isTrivial_eq_false_of_narrow stated.2.1
    (Leaf.isBroad_eq_false_of_merge_eq_error refuses).2
  have comesIn : ∀ (start : Clauses Node) (occur : Occur),
      start.bucket occur = [] →
      ∃ result,
        ((start.add occur (.leaf a)).add occur (.leaf c)).absorb occur operation
        (.leaf b) = .ok result := fun start occur empty =>
    Clauses.exists_absorb_of_shelter
      (Clauses.find?_add_add (.leaf a) (.leaf c) empty stated.1
      stated.2.2 (congrArg MergeKey.field keyC)) stated.2.1 keyB refuses parts
  cases operation with
  | union =>
      obtain ⟨result, absorbed⟩ := comesIn .disjunction .should rfl
      change ∃ node, (Node.clauses _).union (.leaf b) = .ok node
      rw [(merge_clauses_leaf _ notTrivial).1, Clauses.unionLeaf]
      split
      · exact ⟨_, rfl⟩
      · split
        · rw [Clauses.addDisjuncts, Clauses.absorbAll_singleton, absorbed]
          exact ⟨_, rfl⟩
        · exact ⟨_, rfl⟩
  | inter =>
      obtain ⟨filterB, filterC⟩ := scored rfl
      obtain ⟨result, absorbed⟩ := comesIn .conjunction
        (Node.leaf a).conjunctOccur (by
        cases (Node.leaf a).conjunctOccur <;> rfl)
      change ∃ node, (Node.clauses _).inter (.leaf b) = .ok node
      rw [(merge_clauses_leaf _ notTrivial).2, Clauses.interLeaf]
      split
      · exact ⟨_, rfl⟩
      · rw [Clauses.addConjunct, Clauses.addConjunct, Node.isFilter,
          Node.isFilter, filterB, filterC]
        have group :
            ((Clauses.conjunction.add (Node.leaf a).conjunctOccur (.leaf a)).add
            (Node.leaf a).conjunctOccur (.leaf c)).absorb
              (Node.leaf a).conjunctOccur .inter
              (.leaf b) = .ok result := absorbed
        exact ⟨_, congrArg (Except.map Clauses.node) group⟩

include beside in
/-- Where two leaves refuse each other and a third parts from both, the order
matters: the second comes in only behind the third. -/
theorem Node.mergeAll_of_shelter :
    (∃ node, mergeAll operation [.leaf a, .leaf c, .leaf b] = .ok node) ∧
      mergeAll operation [.leaf a, .leaf b, .leaf c] = .error error := by
  constructor
  · obtain ⟨node, success⟩ := exists_merge_of_shelter stated keyB keyC refuses
      parts scored
    refine ⟨node, ?_⟩
    rw [mergeAll, List.foldlM_cons, merge_leaf, beside]
    change (Node.merge _ _ _ >>= _) = _
    rw [success]
    rfl
  · rw [mergeAll, List.foldlM_cons, merge_leaf, refuses]
    rfl

end Trees

end Shelter

section Sizes

/-- The range of the sizes strictly between two. -/
def Range.ofSizes (low high : Int64) (boost : Binary64) : Range where
  field := "size"
  type := ⟨.integer, false⟩
  boost := boost
  filter := false
  lower := some ⟨.gt, .int low⟩
  upper := some ⟨.lt, .int high⟩
  relation := none
  timeZone := none

/-- The condition that the size is strictly between two. -/
def Condition.ofSizes (low high : String) (boost : Binary64) : Condition where
  field := "size"
  comparison := .between false false
  values := [low, high]
  modifiers := { Modifiers.none with boost := some boost }

/-- A compiler for a field with one size. -/
def Compiler.ofSizes : Compiler :=
  ⟨.declare .empty "size" ⟨.integer, false, none⟩, .standard⟩

/-- Two ranges of sizes apart from each other and one that meets both, of twice
their weight. -/
def Leaf.sizes : List Leaf :=
  [.range (.ofSizes 1 3 .one), .range (.ofSizes 5 7 .one),
    .range (.ofSizes 2 6 ⟨0x4000000000000000⟩)]

theorem Compiler.compileAll_ofSizes :
    compileAll .ofSizes [.condition (.ofSizes "1" "3" .one),
      .condition (.ofSizes "5" "7" .one),
      .condition (.ofSizes "2" "6" ⟨0x4000000000000000⟩)] =
      .ok (Leaf.sizes.map .leaf) := by
  with_unfolding_all rfl

variable {operation : MergeOperation} {a b : Leaf}

theorem Leaf.merge_sizes (isA : a ∈ sizes) (isB : b ∈ sizes) :
    merge operation a b = .ok (.leaf a) ∧ a.boost = b.boost ∨
      merge operation a b = .ok (operation.apart (.leaf a) (.leaf b)) ∧
        operation = .union ∧ a.boost = b.boost ∨
      (∃ error, merge operation a b = .error error) ∧
        (operation = .union → a.boost ≠ b.boost) := by
  simp only [sizes, List.mem_cons, List.not_mem_nil, or_false] at isA isB
  cases operation <;> rcases isA with rfl | rfl | rfl <;>
    rcases isB with rfl | rfl | rfl <;>
      first
        | exact .inl ⟨by with_unfolding_all rfl, rfl⟩
        | exact .inr (.inl ⟨by with_unfolding_all rfl, rfl, rfl⟩)
        | exact .inr (.inr ⟨⟨_, by with_unfolding_all rfl⟩, by decide⟩)

/-- Of the sizes those that differ in weight refuse each other as
alternatives. -/
theorem Leaf.clashes_sizes_iff (isA : a ∈ sizes) (isB : b ∈ sizes) :
    a.Clashes .union b ↔ a.boost ≠ b.boost := by
  constructor
  · rintro (⟨error, failure⟩ | ⟨error, failure⟩)
    · rcases @merge_sizes .union a b isA isB with
        ⟨merges, -⟩ | ⟨merges, -⟩ | ⟨-, differ⟩
      · cases merges.symm.trans failure
      · cases merges.symm.trans failure
      · exact differ rfl
    · rcases @merge_sizes .union b a isB isA with
        ⟨merges, -⟩ | ⟨merges, -⟩ | ⟨-, differ⟩
      · cases merges.symm.trans failure
      · cases merges.symm.trans failure
      · exact (differ rfl).symm
  · intro differ
    rcases @merge_sizes .union a b isA isB with
      ⟨-, same⟩ | ⟨-, -, same⟩ | ⟨failure, -⟩
    · exact absurd same differ
    · exact absurd same differ
    · exact .inl failure

/-- Two ranges that stay side by side as alternatives and both refuse a third
merge steadily with it. -/
theorem Leaf.areSteady_sizes {discipline : Discipline}
    (operation : MergeOperation) :
    Node.AreSteady discipline operation (sizes.map .leaf) := by
  have single : ∀ leaf ∈ sizes, leaf.key = "size" ∧ leaf.isNothing = false ∧
      leaf.isBroad = false ∧ leaf.isFilter = false := by
    intro leaf isLeaf
    simp only [sizes, List.mem_cons, List.not_mem_nil, or_false] at isLeaf
    rcases isLeaf with rfl | rfl | rfl <;> exact ⟨rfl, rfl, rfl, rfl⟩
  refine areSteady_of_closed (fun _ => id) ?_ ?_
    (fun leaf isLeaf => ⟨(single leaf isLeaf).2.1, (single leaf isLeaf).2.2.1⟩)
    fun a b isA isB =>
      (single a isA).2.2.2.trans (single b isB).2.2.2.symm
  · intro a b node leaf isA isB sameKey merges isIn
    suffices isOne : leaf = a ∨ leaf = b by
      rcases isOne with rfl | rfl
      · exact ⟨isA, rfl⟩
      · exact ⟨isB, sameKey.symm⟩
    rcases @merge_sizes operation a b isA isB with
      ⟨single, -⟩ | ⟨apart, -⟩ | ⟨⟨error, failure⟩, -⟩
    · cases single.symm.trans merges
      cases isIn
      exact .inl rfl
    · cases apart.symm.trans merges
      exact eq_or_eq_of_isIn_apart (single a isA).2.1 (single b isB).2.1 isIn
    · cases failure.symm.trans merges
  · rintro a b c isA isB isC - - ⟨content, parts⟩
    rcases @merge_sizes operation a b isA isB with
      ⟨single, -⟩ | ⟨-, rfl, same⟩ | ⟨⟨error, failure⟩, -⟩
    · cases single.symm.trans parts
    · rw [clashes_sizes_iff isA isC, clashes_sizes_iff isB isC, same]
    · cases failure.symm.trans parts

end Sizes

/-- The leaves that a condition compiles to agree with others. -/
def Condition.Agrees (compiler : Compiler) (concord : Concord)
    (condition : Condition) : Prop :=
  ∀ node, compiler.compileCondition condition = .ok node →
    node.WellFormed (Leaf.Agrees concord)

namespace Compiler

variable {compiler : Compiler} {parts others : List Expr}
  {operation : MergeOperation}
  {concord : Concord} {engine : Engine} {document : StoredDocument}

/-- Expressions in another order compile to their trees in that order. -/
theorem exists_compileAll_of_perm
    {nodes : List Node}
    (permutes : parts.Perm others)
    (compiles : compiler.compileAll parts = .ok nodes) :
    ∃ otherNodes, compiler.compileAll others = .ok otherNodes ∧
      nodes.Perm otherNodes := by
  rw [compileAll_eq_mapM] at compiles ⊢
  obtain ⟨otherNodes, reads, permutesNodes⟩ :=
    List.perm_comp_forall₂ permutes.symm (forall₂_of_mapM_eq_ok compiles)
  refine ⟨otherNodes, ?_, permutesNodes.symm⟩
  clear permutesNodes permutes compiles
  induction reads with
  | nil => rfl
  | cons isRead _ hypothesis =>
      rw [List.mapM_cons, isRead, hypothesis]
      rfl

/-- The trees of expressions are settled, and their leaves meet. -/
theorem enters_of_compileAll
    {nodes : List Node}
    (compiles : compiler.compileAll parts = .ok nodes)
    (steady : (Gathering.ofNodes compiler.looseDiscipline nodes).IsSteady
      operation) :
    ∀ node ∈ nodes,
      (Gathering.ofNodes compiler.looseDiscipline nodes).Enters
        operation node := by
  intro node isNode
  have settled : node.IsSettled compiler.looseDiscipline := by
    rw [compileAll_eq_mapM] at compiles
    obtain ⟨part, -, success⟩ := exists_mem_of_mapM_eq_ok compiles isNode
    exact isSettled_of_compile success
  have attends : ∀ role leaf, .leaf leaf ∈ node.standing role →
      (Gathering.ofNodes compiler.looseDiscipline nodes).Attends role leaf.key
        leaf := fun role leaf isLeaf =>
    ⟨.given ⟨rfl, rfl, node, isNode, isLeaf, isLeaf⟩,
      settled.normal.leaf_of_isIn (Node.isIn_of_mem_standing isLeaf), rfl⟩
  refine ⟨settled, fun role _ => attends role, fun role isRole key => ?_⟩
  rcases steady role isRole key with isOpen | even
  · refine isOpen.isLevel ?_
    rintro leaf ⟨isLeaf, rfl⟩
    exact attends role leaf isLeaf
  · rintro a b c ⟨isA, rfl⟩ ⟨isB, sameKey⟩ narrowA narrowB attendsC
    exact even.alike a b c (attends role a isA).family
      (sameKey ▸ (attends role b isB).family) attendsC.family narrowA narrowB
      (.inl ⟨rfl, sameKey, node, isNode, isA, isB⟩)

/-- Whether expressions merge does not depend on their order where their trees
merge steadily. -/
theorem exists_mergeAll_of_perm
    (permutes : parts.Perm others)
    (steady : ∀ nodes, compiler.compileAll parts = .ok nodes →
      Node.AreSteady compiler.looseDiscipline operation nodes) :
    (∃ node, compiler.compileAll parts >>= Node.mergeAll operation = .ok node) ↔
      ∃ node,
        compiler.compileAll others >>= Node.mergeAll operation = .ok node := by
  have obeys := compiler.obeys_looseDiscipline
  have stable := Leaf.isStable_isSound obeys.tight obeys.probed
  have merges : ∀ {nodes otherNodes : List Node},
      compiler.compileAll parts = .ok nodes →
      nodes.Perm otherNodes →
        ((∃ node, Node.mergeAll operation nodes = .ok node) ↔
        ∃ node, Node.mergeAll operation otherNodes =
          .ok node) := fun compiles permutes =>
    Gathering.exists_mergeAll_iff_of_perm obeys.tight stable
      (steady _ compiles).steady permutes
      (enters_of_compileAll compiles (steady _ compiles).steady)
      (steady _ compiles).clear
  constructor
  · rintro ⟨node, success⟩
    obtain ⟨nodes, compiles, success⟩ := exists_of_bind_eq_ok success
    obtain ⟨otherNodes, otherCompiles, permutesNodes⟩ :=
      exists_compileAll_of_perm permutes compiles
    rw [otherCompiles]
    exact (merges compiles permutesNodes).mp ⟨node, success⟩
  · rintro ⟨node, success⟩
    obtain ⟨otherNodes, otherCompiles, success⟩ := exists_of_bind_eq_ok success
    obtain ⟨nodes, compiles, permutesNodes⟩ :=
      exists_compileAll_of_perm permutes.symm otherCompiles
    rw [compiles]
    exact (merges compiles permutesNodes.symm).mpr ⟨node, success⟩

/-- Expressions compile one after the other where each of them does. -/
theorem exists_compileAll_iff :
    (∃ nodes, compiler.compileAll parts = .ok nodes) ↔
      ∀ part ∈ parts, ∃ node, compiler.compile part = .ok node := by
  induction parts with
  | nil =>
      rw [compileAll]
      simp
  | cons part rest hypothesis =>
      rw [compileAll, List.forall_mem_cons, ← hypothesis]
      constructor
      · rintro ⟨nodes, success⟩
        obtain ⟨node, compiles, success⟩ := exists_of_bind_eq_ok success
        obtain ⟨restNodes, compilesRest, _⟩ := exists_of_bind_eq_ok success
        exact ⟨⟨node, compiles⟩, restNodes, compilesRest⟩
      · rintro ⟨⟨node, compiles⟩, restNodes, compilesRest⟩
        rw [compiles, compilesRest]
        exact ⟨_, rfl⟩

/-- Expressions merge where each of them compiles and there is one, if their
leaves do not refuse each other. -/
theorem exists_mergeAll_iff_of_isLax
    (lax : ∀ nodes, compiler.compileAll parts = .ok nodes →
      (Gathering.ofNodes compiler.looseDiscipline nodes).IsLax operation) :
    (∃ node, compiler.compileAll parts >>= Node.mergeAll operation = .ok node) ↔
      parts ≠ [] ∧ ∀ part ∈ parts, ∃ node,
        compiler.compile part = .ok node := by
  have obeys := compiler.obeys_looseDiscipline
  have stable := Leaf.isStable_isSound obeys.tight obeys.probed
  have merges : ∀ nodes, compiler.compileAll parts = .ok nodes →
      ((∃ node, Node.mergeAll operation nodes = .ok node) ↔ nodes ≠ []) := by
    intro nodes compiles
    have areSteady := (lax nodes compiles).areSteady
    have enters := enters_of_compileAll compiles areSteady.steady
    rw [Gathering.exists_mergeAll_iff obeys.tight stable areSteady.steady
      enters areSteady.clear]
    have allied : (Gathering.ofNodes compiler.looseDiscipline nodes).AreAllied
        operation (Gathering.ofNodes compiler.looseDiscipline nodes).Attends :=
      fun role isRole key =>
        (lax nodes compiles role isRole key).isAlliance_attends stable
    exact and_iff_left ⟨_, allied, fun node isNode =>
      (lax nodes compiles).passes allied (enters node isNode)⟩
  have nonempty : ∀ nodes, compiler.compileAll parts = .ok nodes →
      (nodes ≠ [] ↔ parts ≠ []) := by
    intro nodes compiles
    rw [compileAll_eq_mapM] at compiles
    cases forall₂_of_mapM_eq_ok compiles <;> simp
  rw [← exists_compileAll_iff]
  constructor
  · rintro ⟨node, success⟩
    obtain ⟨nodes, compiles, success⟩ := exists_of_bind_eq_ok success
    exact ⟨(nonempty nodes compiles).mp
      ((merges nodes compiles).mp ⟨node, success⟩), nodes, compiles⟩
  · rintro ⟨some, nodes, compiles⟩
    rw [compiles]
    exact (merges nodes compiles).mpr ((nonempty nodes compiles).mpr some)

/-- The trees of expressions whose conditions agree have leaves that concur. -/
theorem isNormal_concurs_of_compileAll
    {nodes : List Node}
    (agree : ∀ part ∈ parts, part.Every (Condition.Agrees compiler concord))
    (compiles : compiler.compileAll parts = .ok nodes) :
    ∀ node ∈ nodes,
      node.IsNormal (Leaf.Concurs compiler.looseDiscipline concord) := by
  intro node isNode
  rw [compileAll_eq_mapM] at compiles
  obtain ⟨part, isPart, success⟩ := exists_mem_of_mapM_eq_ok compiles isNode
  have obeys := compiler.obeys_looseDiscipline
  refine isNormal_of_compile (Leaf.isStable_concurs obeys.tight obeys.probed)
    ((agree part isPart).imp₂ (part.every_suits_looseDiscipline compiler)
      ?_) success
  intro condition agrees suits node compiles
  have normal := isNormal_compileCondition obeys suits compiles
  exact (normal.and_wellFormed (agrees node compiles)).mono fun leaf both =>
    ⟨both.1.1, both.1.2, both.2⟩

/-- A disjunction of expressions whose leaves agree compiles where its operands
do and there is one. -/
theorem exists_compile_any_iff
    (agree : ∀ part ∈ parts, part.Every (Condition.Agrees compiler concord)) :
    (∃ node, compiler.compile (.any parts) = .ok node) ↔
      parts ≠ [] ∧ ∀ part ∈ parts, ∃ node,
        compiler.compile part = .ok node := by
  have obeys := compiler.obeys_looseDiscipline
  simp only [compile]
  exact exists_mergeAll_iff_of_isLax fun nodes compiles =>
    Gathering.isLax_of_concurs obeys.tight
      (Leaf.isStable_concurs obeys.tight obeys.probed)
      (isNormal_concurs_of_compileAll agree compiles)

/-- A conjunction of expressions whose leaves agree compiles where its operands
do and there is one, if some document meets all of the operands. -/
theorem exists_compile_all_iff
    (agree : ∀ part ∈ parts, part.Every (Condition.Agrees compiler concord))
    (fits : document.Fits compiler.types)
    (holds : ∀ part ∈ parts, ∀ node, compiler.compile part = .ok node →
      node.holds engine document = true) :
    (∃ node, compiler.compile (.all parts) = .ok node) ↔
      parts ≠ [] ∧ ∀ part ∈ parts, ∃ node,
        compiler.compile part = .ok node := by
  have obeys := compiler.obeys_looseDiscipline
  simp only [compile]
  refine exists_mergeAll_iff_of_isLax fun nodes compiles => ?_
  have holdsAll : ∀ node ∈ nodes, node.holds engine document = true := by
    intro node isNode
    rw [compileAll_eq_mapM] at compiles
    obtain ⟨part, isPart, success⟩ := exists_mem_of_mapM_eq_ok compiles isNode
    exact holds part isPart node success
  exact Gathering.isLax_of_holds obeys.tight
    (Leaf.isStable_concurs obeys.tight obeys.probed)
    (isNormal_concurs_of_compileAll agree compiles) fits holdsAll

/-- Whether operands compile to a disjunction or to a conjunction does not
depend on their order, where their trees merge steadily. -/
theorem exists_compile_iff_of_perm (permutes : parts.Perm others) :
    ((∀ nodes, compiler.compileAll parts = .ok nodes →
        Node.AreSteady compiler.looseDiscipline .union nodes) →
      ((∃ node, compiler.compile (.any parts) = .ok node) ↔
        ∃ node, compiler.compile (.any others) = .ok node)) ∧
    ((∀ nodes, compiler.compileAll parts = .ok nodes →
        Node.AreSteady compiler.looseDiscipline .inter nodes) →
      ((∃ node, compiler.compile (.all parts) = .ok node) ↔
        ∃ node, compiler.compile (.all others) = .ok node)) := by
  simp only [compile]
  exact ⟨exists_mergeAll_of_perm permutes, exists_mergeAll_of_perm permutes⟩

/-- Two ranges of sizes stay side by side as alternatives, and both refuse a
range of twice their weight that meets them, in every order. -/
theorem exists_compile_iff_of_perm_ofSizes :
    let small := .condition (.ofSizes "1" "3" .one)
    let large := .condition (.ofSizes "5" "7" .one)
    let medium := .condition (.ofSizes "2" "6" ⟨0x4000000000000000⟩)
    (¬∃ node, compile .ofSizes (.any [small, large, medium]) = .ok node) ∧
      ((∃ node, compile .ofSizes (.any [small, large, medium]) = .ok node) ↔
        ∃ node, compile .ofSizes (.any [small, medium, large]) = .ok node) ∧
      ((∃ node, compile .ofSizes (.all [small, large, medium]) = .ok node) ↔
        ∃ node, compile .ofSizes (.all [small, medium, large]) = .ok node) := by
  intro small large medium
  have steady : ∀ operation nodes,
      compileAll .ofSizes [small, large, medium] = .ok nodes →
        Node.AreSteady (looseDiscipline .ofSizes) operation nodes := by
    intro operation nodes compiles
    cases compileAll_ofSizes.symm.trans compiles
    exact Leaf.areSteady_sizes operation
  obtain ⟨any, all⟩ := @exists_compile_iff_of_perm .ofSizes
    [small, large, medium] [small, medium, large]
    ((List.Perm.swap _ _ []).cons _)
  refine ⟨?_, any (steady .union), all (steady .inter)⟩
  rintro ⟨node, success⟩
  rw [compile, compileAll_ofSizes] at success
  have refused : Except.ok node =
      .error (Error.boostConflict "size" .one ⟨0x4000000000000000⟩) :=
    success.symm.trans (by with_unfolding_all rfl)
  cases refused

/-- The order of alternatives and that of conditions may matter: blue is refused
by amber alone, but comes in where a stem is there that it stands beside. -/
theorem not_forall_exists_compile_iff_of_perm :
    (¬∀ (compiler : Compiler) (parts others : List Expr), parts.Perm others →
      ((∃ node, compiler.compile (.any parts) = .ok node) ↔
        ∃ node, compiler.compile (.any others) = .ok node)) ∧
    ¬∀ (compiler : Compiler) (parts others : List Expr), parts.Perm others →
      ((∃ node, compiler.compile (.all parts) = .ok node) ↔
        ∃ node, compiler.compile (.all others) = .ok node) := by
  constructor
  · intro law
    have order := law ⟨.empty, .standard⟩
      [.condition (.equalTo "color" "amber"),
        .condition ⟨"color", .stem, ["z"], .none⟩,
        .condition
        ((Condition.equalTo "color" "blue").withBoost ⟨0x4000000000000000⟩)]
      [.condition (.equalTo "color" "amber"),
        .condition
          ((Condition.equalTo "color" "blue").withBoost ⟨0x4000000000000000⟩),
        .condition ⟨"color", .stem, ["z"], .none⟩]
      ((List.Perm.swap _ _ []).cons _)
    obtain ⟨node, success⟩ := order.mp ⟨_, by with_unfolding_all rfl⟩
    have refused : Except.ok node =
        .error (Error.boostConflict "color" .one ⟨0x4000000000000000⟩) :=
      success.symm.trans (by with_unfolding_all rfl)
    cases refused
  · intro law
    have order := law ⟨.empty, .standard⟩
      [.condition (.equalTo "color" "amber"),
        .condition ⟨"color", .stem, ["z"], .none⟩,
        .condition (.equalTo "color" "blue")]
      [.condition (.equalTo "color" "amber"),
        .condition (.equalTo "color" "blue"),
        .condition ⟨"color", .stem, ["z"], .none⟩]
      ((List.Perm.swap _ _ []).cons _)
    obtain ⟨node, success⟩ := order.mp ⟨_, by with_unfolding_all rfl⟩
    have refused :
        Except.ok node = .error (Error.valueConflict "color" "amber" "blue") :=
      success.symm.trans (by with_unfolding_all rfl)
    cases refused

end Compiler
end SearchQuery
