import SearchQuery.Proofs.OperandMerges

/-!
# The order in which trees merge

Alliances decide whether two trees merge, and what they merge to passes the
alliances that both of them pass. So trees merge one after the other if and only
if some alliances pass all of them, which says nothing of their order.
-/

namespace SearchQuery

namespace Clauses

variable {clauses result : Clauses Node} {law : Leaf → Prop} {occur : Occur}
  {node : Node}

/-- The only clause that is left of a tree in normal form is a leaf, and there
were several of its kind. -/
theorem exists_leaf_of_outlast
    (normal : (Node.clauses clauses).IsNormal law)
    (outlast : ∀ kind,
      Siblings.Outlast (clauses.nodes kind) (result.nodes kind))
    (notExcluded : occur ≠ .mustNot)
    (only : result.nodes occur = [node])
    (others : ∀ other, other ≠ occur → result.nodes other = []) :
    2 ≤ (clauses.nodes occur).length ∧ ∃ leaf, node = .leaf leaf := by
  have none : ∀ other, other ≠ occur → clauses.nodes other = [] :=
    fun other differs => (others other differs ▸ outlast other).eq_nil
  have several : 2 ≤ (clauses.nodes occur).length := by
    rcases normal.several with several | ⟨-, excluded⟩
    · unfold count at several
      cases occur
      · simpa [none .filter, none .should, none .mustNot] using several
      · simpa [none .must, none .should, none .mustNot] using several
      · simpa [none .must, none .filter, none .mustNot] using several
      · exact absurd rfl notExcluded
    · rw [none .mustNot notExcluded.symm] at excluded
      cases excluded
  exact ⟨several, (only ▸ outlast occur).exists_leaf several⟩

/-- Where the alternatives are as they were or there were none, the leaves of
the node that clauses make stand in the role in which those of the clauses
stand. -/
theorem mem_standing_node_iff_of_outlast
    {role : Role}
    {leaf : Leaf}
    (normal : (Node.clauses clauses).IsNormal law)
    (outlast : ∀ kind,
      Siblings.Outlast (clauses.nodes kind) (result.nodes kind))
    (alternatives : result.nodes .should = clauses.nodes .should ∨
      clauses.nodes .should = [])
    (isRole : role ∈ MergeOperation.inter.roles) :
    .leaf leaf ∈ result.node.standing role ↔
      .leaf leaf ∈ (Node.clauses result).standing role := by
  rcases result.node_eq_clauses_or with
    stays | ⟨-, occur, notExcluded, only, others⟩
  · rw [stays]
  · obtain ⟨several, content, isLeaf⟩ :=
      exists_leaf_of_outlast normal outlast notExcluded only others
    have conjunctive : occur ≠ .should := by
      rintro rfl
      rcases alternatives with same | none
      · rw [← same, only] at several
        simp at several
      · rw [none] at several
        simp at several
    rw [isLeaf] at only ⊢
    simp only [MergeOperation.roles, List.mem_cons, List.not_mem_nil, or_false]
      at isRole
    rcases isRole with rfl | rfl
    · cases occur
      · rw [Node.standing, Node.standing, only, others .filter (by decide),
          List.append_nil]
      · rw [Node.standing, Node.standing, only, others .must (by decide),
          List.nil_append]
      · exact absurd rfl conjunctive
      · exact absurd rfl notExcluded
    · rw [Node.standing, Node.standing, others .mustNot notExcluded.symm]

end Clauses

namespace Gathering

variable {gathering : Gathering} {alliances : Role → String → Leaf → Prop}
  {occur : Occur}
  {content other result final : Clauses Node} {a b merged : Node}
  {nodes : List Node}
  {operation : MergeOperation} {leaf : Leaf}

theorem admits_append_iff {role : Role} {nodes others : List Node} :
    gathering.Admits role (nodes ++ others) ↔
      gathering.Admits role nodes ∧ gathering.Admits role others := by
  simp only [Admits, List.mem_append, or_imp, forall_and]

/-- A tree with clauses passes under union if its alternatives do, where there
is nothing else. -/
theorem passes_union_iff :
    Passes alliances .union (.clauses content) ↔
      (content.isDisjunctive = true →
        Accepts alliances .alternative (content.nodes .should)) := by
  simp only [Passes, MergeOperation.roles, List.forall_mem_singleton,
    Node.standing, Clauses.disjuncts]
  cases content.isDisjunctive with
  | true => simp
  | false => simp [Accepts]

/-- A tree with clauses passes under intersection if the clauses of each kind
but the alternatives are accepted. -/
theorem passes_inter_iff :
    Passes alliances .inter (.clauses content) ↔
      ∀ occur, occur ≠ .should →
        Accepts alliances occur.role (content.nodes occur) := by
  simp only [Passes, MergeOperation.roles, List.forall_mem_cons,
    List.not_mem_nil, IsEmpty.forall_iff, implies_true, and_true, Node.standing,
    accepts_append_iff]
  constructor
  · rintro ⟨⟨must, filter⟩, mustNot⟩ occur differs
    cases occur
    · exact must
    · exact filter
    · exact absurd rfl differs
    · exact mustNot
  · intro accepts
    exact ⟨⟨accepts .must (by decide), accepts .filter (by decide)⟩,
      accepts .mustNot (by decide)⟩

/-- The leaves of a tree with clauses may meet others under intersection if
those of each kind but the alternatives may. -/
theorem admits_inter_iff :
    (∀ role ∈ MergeOperation.inter.roles,
      gathering.Admits role ((Node.clauses content).standing role)) ↔
      ∀ occur, occur ≠ .should →
        gathering.Admits occur.role (content.nodes occur) := by
  simp only [MergeOperation.roles, List.forall_mem_cons, List.not_mem_nil,
    IsEmpty.forall_iff, implies_true, and_true, Node.standing,
    admits_append_iff]
  constructor
  · rintro ⟨⟨must, filter⟩, mustNot⟩ occur differs
    cases occur
    · exact must
    · exact filter
    · exact absurd rfl differs
    · exact mustNot
  · intro admits
    exact ⟨⟨admits .must (by decide), admits .filter (by decide)⟩,
      admits .mustNot (by decide)⟩

/-- The clauses of each kind but the alternatives are level if the tree is. -/
theorem levels_of_inter
    (levels : ∀ role ∈ MergeOperation.inter.roles,
      gathering.Levels role ((Node.clauses content).standing role))
    (differs : occur ≠ .should) :
    gathering.Levels occur.role (content.nodes occur) := by
  have conjuncts := levels .conjunct List.mem_cons_self
  intro key a b c isA isB
  cases occur
  · exact conjuncts key a b c ⟨List.mem_append_left _ isA.1, isA.2⟩
      ⟨List.mem_append_left _ isB.1, isB.2⟩
  · exact conjuncts key a b c ⟨List.mem_append_right _ isA.1, isA.2⟩
      ⟨List.mem_append_right _ isB.1, isB.2⟩
  · exact absurd rfl differs
  · exact levels .exclusion (List.mem_cons_of_mem _ List.mem_cons_self) key a b
      c isA isB

/-- What must hold in a settled tree is level if the clauses of both kinds
are: its narrow leaves with one key are of one kind. -/
theorem levels_inter
    (steady : gathering.IsSteady .inter)
    (settled : content.AreSettled gathering.discipline)
    (admits : ∀ occur, occur ≠ .should →
      gathering.Admits occur.role (content.nodes occur))
    (levels : ∀ occur, occur ≠ .should →
      gathering.Levels occur.role (content.nodes occur)) :
    ∀ role ∈ MergeOperation.inter.roles,
      gathering.Levels role ((Node.clauses content).standing role) := by
  have admitsMust := admits .must (by decide)
  have admitsFilter := admits .filter (by decide)
  have scored : ∀ {occur : Occur} {leaf : Leaf}, occur.operation = .inter →
      .leaf leaf ∈ content.nodes occur →
        (if leaf.isFilter = true then Occur.filter else .must) = occur :=
    fun isInter isMember =>
      (settled.settles_of_mem isMember).lodges.placed isInter
  have apart : ∀ key a b, gathering.IsEven .conjunct key →
      .leaf a ∈ content.nodes .must → .leaf b ∈ content.nodes .filter →
        a.key = key → b.key = key → a.isBroad = false →
          b.isBroad = false → False := by
    intro key a b even isA isB keyA keyB narrowA narrowB
    have same := even.scored rfl a b (keyA ▸ (admitsMust a isA).family)
      (keyB ▸ (admitsFilter b isB).family) narrowA narrowB
    have isMust := scored rfl isA
    rw [same, scored rfl isB] at isMust
    cases isMust
  intro role isRole
  simp only [MergeOperation.roles, List.mem_cons, List.not_mem_nil, or_false]
    at isRole
  rcases isRole with rfl | rfl
  · intro key
    rcases steady .conjunct List.mem_cons_self key with isOpen | even
    · refine isOpen.isLevel ?_
      rintro leaf ⟨isLeaf, rfl⟩
      rcases List.mem_append.mp isLeaf with isMust | isFilter
      · exact admitsMust leaf isMust
      · exact admitsFilter leaf isFilter
    · rintro a b c ⟨isA, keyA⟩ ⟨isB, keyB⟩ narrowA narrowB
      rcases List.mem_append.mp isA with mustA | filterA
      · rcases List.mem_append.mp isB with mustB | filterB
        · exact levels .must (by decide) key a b c ⟨mustA, keyA⟩ ⟨mustB, keyB⟩
            narrowA narrowB
        · exact (apart key a b even mustA filterB keyA keyB narrowA
            narrowB).elim
      · rcases List.mem_append.mp isB with mustB | filterB
        · exact (apart key b a even mustB filterA keyB keyA narrowB
            narrowA).elim
        · exact levels .filter (by decide) key a b c ⟨filterA, keyA⟩
            ⟨filterB, keyB⟩ narrowA narrowB
  · exact levels .mustNot (by decide)

section Same

variable (tight : gathering.discipline.tight = true)
  (stable : Leaf.IsStable (Leaf.IsSound gathering.discipline))
include tight stable

/-- Clauses that are the same are accepted by the same alliances. -/
theorem accepts_nodes_iff_of_same
    {role : Role}
    (steady : ∀ key, gathering.IsOpen role key ∨ gathering.IsEven role key)
    (areAlliances : gathering.AreAlliances alliances role)
    (settled : (Node.clauses content).IsSettled gathering.discipline)
    (admits : gathering.Admits role (content.nodes occur))
    (otherAdmits : gathering.Admits role (other.nodes occur))
    (alike : (Node.clauses content).same (.clauses other) = true) :
    Accepts alliances role (content.nodes occur) ↔
      Accepts alliances role (other.nodes occur) := by
  obtain ⟨verdict, tells⟩ :=
    MergeOperation.inter.exists_verdict fun node =>
      Accepts alliances role [node]
  obtain ⟨sameLength, sameBuckets⟩ := (Node.buckets_of_same alike).1 occur
  have permutes :
      ((content.nodes occur).map verdict).Perm
        ((other.nodes occur).map verdict) := by
    refine Node.perm_of_sameBucket
      (settled.areSettled.grouped.shaped.keys occur) sameLength
      (fun node isNode member isMember sameNode => ?_) sameBuckets
    have accepted : Accepts alliances role [node] ↔
        Accepts alliances role [member] := by
      cases node with
      | leaf a =>
          cases member with
          | leaf b =>
              rw [Node.same] at sameNode
              have sameKey := Leaf.key_eq_of_same sameNode
              simpa [Accepts, sameKey] using
                (areAlliances b.key).same_iff tight stable (steady b.key)
                  (sameKey ▸ admits a isNode) (otherAdmits b isMember) sameNode
          | clauses => simp [Node.same] at sameNode
      | clauses a =>
          cases member with
          | leaf b => simp [Node.same] at sameNode
          | clauses b => simp [Accepts]
    rw [Bool.eq_iff_iff]
    exact (tells node).trans (accepted.trans (tells member).symm)
  have accepted : ∀ nodes : List Node, Accepts alliances role nodes ↔
      (nodes.map verdict).all id = true := by
    intro nodes
    rw [accepts_iff, List.all_map, List.all_eq_true]
    exact forall₂_congr fun node _ => (tells node).symm
  rw [accepted, accepted, permutes.all_eq]

variable (steady : gathering.IsSteady operation)
include steady

/-- Trees that are the same pass the same alliances. -/
theorem passes_iff_of_same
    (allied : gathering.AreAllied operation alliances)
    (enters : gathering.Enters operation (.clauses content))
    (otherEnters : gathering.Enters operation (.clauses other))
    (alike : (Node.clauses content).same (.clauses other) = true) :
    Passes alliances operation (.clauses content) ↔
      Passes alliances operation (.clauses other) := by
  cases operation with
  | union =>
      have disjunctive : content.isDisjunctive = other.isDisjunctive := by
        obtain ⟨buckets, minimum⟩ := Node.buckets_of_same alike
        have absent : ∀ occur, content.bucket occur = [] ↔
            other.bucket occur = [] := fun occur => by
          rw [← List.length_eq_zero_iff, (buckets occur).1,
            List.length_eq_zero_iff]
        rw [Bool.eq_iff_iff]
        simp only [Clauses.isDisjunctive_iff, ne_eq, absent, minimum]
      have isRole := List.mem_singleton_self Role.alternative
      have admits := enters.admits .alternative isRole
      have otherAdmits := otherEnters.admits .alternative isRole
      rw [Node.standing, Clauses.disjuncts] at admits otherAdmits
      rw [passes_union_iff, passes_union_iff, ← disjunctive]
      refine imp_congr_right fun isDisjunctive => ?_
      rw [if_pos isDisjunctive] at admits
      rw [if_pos (disjunctive ▸ isDisjunctive)] at otherAdmits
      exact accepts_nodes_iff_of_same tight stable (steady _ isRole)
        (allied _ isRole) enters.settled admits otherAdmits alike
  | inter =>
      have admits := admits_inter_iff.mp enters.admits
      have otherAdmits := admits_inter_iff.mp otherEnters.admits
      rw [passes_inter_iff, passes_inter_iff]
      refine forall₂_congr fun occur differs => ?_
      have isRole : occur.role ∈ MergeOperation.inter.roles := by
        cases occur <;> simp [Occur.role, MergeOperation.roles] at differs ⊢
      exact accepts_nodes_iff_of_same tight stable (steady _ isRole)
        (allied _ isRole) enters.settled (admits occur differs)
        (otherAdmits occur differs) alike

/-- Of two trees that are the same one stands for both. -/
theorem unites_of_same
    (entersA : gathering.Enters operation a)
    (entersB : gathering.Enters operation b)
    (alike : a.same b = true) :
    gathering.Unites operation a b a := by
  refine unites_left entersA fun alliances allied => ?_
  cases a with
  | leaf x =>
      cases b with
      | leaf y =>
          rw [Node.same] at alike
          exact (passes_iff_of_same_leaf tight stable steady entersA entersB
            alike allied).mp
      | clauses y => simp [Node.same] at alike
  | clauses x =>
      cases b with
      | leaf y => simp [Node.same] at alike
      | clauses y =>
          exact (passes_iff_of_same tight stable steady allied entersA
            entersB alike).mp

end Same

/-- Two trees side by side stand for both under union if nothing else stands for
one of them. -/
theorem unites_either
    (entersA : gathering.Enters .union (.clauses content))
    (entersB : gathering.Enters .union b)
    (standsA : (Node.clauses content).standing .alternative =
      [.clauses content])
    (standsB : b.standing .alternative = [b]) :
    gathering.Unites .union (.clauses content) b
      (.either (.clauses content) b) := by
  have standing := @Node.mem_standing_either_iff (.clauses content) b
  have conditionA := entersA.settled.normal.wellFormed.isEmpty_eq_false
  have conditionB := entersB.settled.normal.wellFormed.isEmpty_eq_false
  have members : ∀ node,
      node ∈ (Node.either (.clauses content) b).standing .alternative ↔
        node ∈ (Node.clauses content).standing .alternative ++
          b.standing .alternative := by
    intro node
    rw [standing conditionA conditionB, standsA, standsB]
    simp
  have isB : ∀ leaf,
      .leaf leaf ∈ (Node.either (.clauses content) b).standing .alternative →
        .leaf leaf ∈ b.standing .alternative := by
    intro leaf isLeaf
    rw [members, standsA] at isLeaf
    simpa using isLeaf
  refine ⟨fun role isRole leaf isLeaf => ?_, fun role isRole => ?_,
    fun alliances _ => ?_, MergeOperation.noConfusion⟩
  · cases List.mem_singleton.mp isRole
    exact entersB.admits _ isRole leaf (isB leaf isLeaf)
  · cases List.mem_singleton.mp isRole
    exact fun key x y c isX isY => entersB.levels _ isRole key x y c
      ⟨isB x isX.1, isX.2⟩ ⟨isB y isY.1, isY.2⟩
  · simp only [Passes, MergeOperation.roles, List.forall_mem_singleton]
    rw [← accepts_append_iff]
    exact forall_congr' fun leaf => imp_congr_left (members _)

/-- Everything stands for itself and whatever it is united with. -/
theorem unites_everything
    {boost : Binary64}
    (enters : gathering.Enters .union (.leaf (.everything boost)))
    (otherEnters : gathering.Enters .union b)
    (clear : gathering.IsClear .union (.leaf (.everything boost)) b) :
    gathering.Unites .union (.leaf (.everything boost)) b
      (.leaf (.everything boost)) := by
  refine unites_left enters fun alliances allied _ => ?_
  rcases clear.unswallowed rfl with lax | none
  · exact lax.passes allied otherEnters
  · cases none _ _ enters.attends.family

/-- A disjunction that takes in alternatives stands for itself and for these. -/
theorem unites_of_takes
    {operators : Operators}
    (enters : gathering.Enters .union (.clauses content))
    (disjunctive : content.isDisjunctive = true)
    (passes : ∀ alliances, gathering.AreAllied .union alliances →
      (Passes alliances .union b ↔ Accepts alliances .alternative nodes))
    (takes : gathering.Takes .should content nodes result) :
    gathering.Unites .union (.clauses content) b
      { result with operators := operators }.node := by
  have normal := enters.settled.normal
  obtain ⟨some, absent, low⟩ :=
    (Clauses.isDisjunctive_iff content).mp disjunctive
  have resultAbsent : ∀ kind, kind ≠ .should → result.bucket kind = [] :=
    fun kind differs => (takes.others kind differs).trans (absent kind differs)
  have outlast :
      ∀ kind, Siblings.Outlast (content.nodes kind) (result.nodes kind) := by
    intro kind
    by_cases isShould : kind = .should
    · exact isShould ▸ takes.outlast
    · rw [Clauses.nodes, Clauses.nodes, takes.others kind isShould]
      exact .refl _
  have resultDisjunctive : result.isDisjunctive = true := by
    refine (Clauses.isDisjunctive_iff result).mpr
      ⟨?_, resultAbsent, takes.minimum ▸ low⟩
    rw [ne_eq, ← takes.settled.grouped.shaped.nodes_eq_nil_iff]
    intro none
    have noneBefore := (none ▸ outlast .should).eq_nil
    exact some
      ((normal.areNormal.shaped.nodes_eq_nil_iff .should).mp noneBefore)
  have standing : ∀ leaf, .leaf leaf ∈ Node.standing .alternative
      { result with operators := operators }.node ↔
        .leaf leaf ∈ result.nodes .should := by
    intro leaf
    refine @Clauses.mem_standing_node_iff
      { result with operators := operators } leaf
      resultDisjunctive fun node only => ?_
    have single : result.nodes .should = [node] := only
    refine (Clauses.exists_leaf_of_outlast normal outlast
      (by decide) single ?_).2
    intro kind differs
    rw [Clauses.nodes, resultAbsent kind differs]
    rfl
  refine ⟨fun role isRole leaf isLeaf => ?_, fun role isRole => ?_,
    fun alliances allied => ?_, MergeOperation.noConfusion⟩
  · cases List.mem_singleton.mp isRole
    exact takes.admits leaf ((standing leaf).mp isLeaf)
  · cases List.mem_singleton.mp isRole
    exact fun key x y c isX isY => takes.levels key x y c
      ⟨(standing x).mp isX.1, isX.2⟩ ⟨(standing y).mp isY.1, isY.2⟩
  · have accepts : Accepts alliances .alternative (result.nodes .should) ↔
        Accepts alliances .alternative (content.nodes .should ++ nodes) :=
      takes.accepts alliances (allied _ (List.mem_singleton_self _))
    rw [passes alliances allied, passes_union_iff,
      forall_prop_of_true disjunctive, ← accepts_append_iff, ← accepts, Passes,
      MergeOperation.roles, List.forall_mem_singleton]
    exact forall_congr' fun leaf => imp_congr_left (standing leaf)

section Unions

variable (tight : gathering.discipline.tight = true)
  (stable : Leaf.IsStable (Leaf.IsSound gathering.discipline))
  (steady : gathering.IsSteady .union)
  (enters : gathering.Enters .union (.clauses content))
include tight stable steady enters

/-- Alliances decide whether alternatives come into a disjunction. -/
theorem decides_addDisjuncts
    (operators : Operators)
    (disjunctive : content.isDisjunctive = true)
    (settle : ∀ node ∈ nodes, node.Settles gathering.discipline .should)
    (admitted : gathering.Admits .alternative nodes)
    (passes : ∀ alliances, gathering.AreAllied .union alliances →
      (Passes alliances .union b ↔ Accepts alliances .alternative nodes)) :
    gathering.Decides .union (.clauses content) b
      (content.addDisjuncts nodes operators) := by
  have isRole := List.mem_singleton_self Role.alternative
  have steadyHere : ∀ key, gathering.IsOpen Occur.should.role key ∨
      gathering.IsEven Occur.should.role key := steady .alternative isRole
  have raised : Occur.should ≠ .should ∨ 1 ≤ content.minimumShould :=
    .inr (enters.settled.normal.areNormal.shaped.isDisjunction
      disjunctive).minimum.ge
  have stands : (Node.clauses content).standing .alternative =
      content.nodes .should := if_pos disjunctive
  have admits : gathering.Admits .alternative (content.nodes .should) :=
    stands ▸ enters.admits .alternative isRole
  have levels : gathering.Levels .alternative (content.nodes .should) :=
    stands ▸ enters.levels .alternative isRole
  constructor
  · intro alliances allied passesContent passesB
    obtain ⟨result, absorbed⟩ := exists_absorbAll_of_accepts tight stable
      steadyHere (allied _ isRole) enters.settled.areSettled raised admits
      levels settle admitted
      (accepts_append_iff.mpr ⟨passes_union_iff.mp passesContent disjunctive,
        (passes alliances allied).mp passesB⟩)
    rw [Clauses.addDisjuncts, show content.absorbAll .should .union nodes =
      .ok result from absorbed]
    exact ⟨_, rfl⟩
  · intro merged success
    cases absorbed : content.absorbAll .should .union nodes with
    | error error =>
        rw [Clauses.addDisjuncts, absorbed] at success
        cases success
    | ok result =>
        rw [Clauses.addDisjuncts, absorbed] at success
        cases success
        have takes := takes_of_absorbAll tight stable steadyHere
          enters.settled.areSettled raised admits levels settle admitted
          absorbed
        exact unites_of_takes enters disjunctive passes takes

/-- Alliances decide the union of clauses and a leaf. -/
theorem decides_unionLeaf (leafEnters : gathering.Enters .union (.leaf leaf)) :
    gathering.Decides .union (.clauses content) (.leaf leaf)
      (content.unionLeaf leaf) := by
  unfold Clauses.unionLeaf
  rw [if_neg (Bool.eq_false_iff.mp enters.settled.normal.clauses_isEmpty)]
  split
  · rename_i disjunctive
    refine decides_addDisjuncts tight stable steady enters .empty disjunctive
      (List.forall_mem_singleton.mpr
        (leafEnters.settled.settles_leaf MergeOperation.noConfusion))
      (leafEnters.admits .alternative (List.mem_singleton_self _))
        fun alliances _ => ?_
    simp [Passes, MergeOperation.roles, Node.standing]
  · rename_i mixed
    have stands : (Node.clauses content).standing .alternative =
        [.clauses content] := if_neg mixed
    exact (unites_either enters leafEnters stands rfl).decides

/-- Alliances decide the union of clauses. -/
theorem decides_unionClauses
    (otherEnters : gathering.Enters .union (.clauses other)) :
    gathering.Decides .union (.clauses content) (.clauses other)
      (content.union other) := by
  have alternatives : ∀ {clauses : Clauses Node},
      gathering.Enters .union (.clauses clauses) →
      (∀ node ∈ clauses.disjuncts, node.Settles gathering.discipline .should) ∧
        gathering.Admits .alternative clauses.disjuncts ∧
          ∀ alliances, gathering.AreAllied .union alliances →
            (Passes alliances .union (.clauses clauses) ↔
              Accepts alliances .alternative clauses.disjuncts) := by
    intro clauses enters
    refine ⟨fun node => Clauses.settles_of_mem_disjuncts enters.settled,
      enters.admits .alternative (List.mem_singleton_self _),
      fun alliances _ => ?_⟩
    simp [Passes, MergeOperation.roles, Node.standing]
  unfold Clauses.union
  rw [if_neg (Bool.eq_false_iff.mp enters.settled.normal.clauses_isEmpty),
    if_neg (Bool.eq_false_iff.mp otherEnters.settled.normal.clauses_isEmpty)]
  split
  · rename_i disjunctive
    obtain ⟨settle, admitted, passes⟩ := alternatives otherEnters
    exact decides_addDisjuncts tight stable steady enters _ disjunctive settle
      admitted passes
  · rename_i mixed
    obtain ⟨settle, admitted, passes⟩ := alternatives enters
    have single : content.disjuncts = [.clauses content] := if_neg mixed
    split
    · rename_i disjunctive
      rw [single] at settle admitted passes
      exact (decides_addDisjuncts tight stable steady otherEnters _ disjunctive
        settle admitted
        passes).symm
    · rename_i otherMixed
      exact (unites_either enters otherEnters single
        (if_neg otherMixed)).decides

end Unions

/-- Alliances decide the union of trees. -/
theorem decides_union
    (tight : gathering.discipline.tight = true)
    (stable : Leaf.IsStable (Leaf.IsSound gathering.discipline))
    (steady : gathering.IsSteady .union)
    (entersA : gathering.Enters .union a)
    (entersB : gathering.Enters .union b)
    (clear : gathering.IsClear .union a b) :
    gathering.Decides .union a b (a.union b) := by
  unfold Node.union
  split
  · exact decides_merge_leaf tight stable steady entersA entersB clear
  · split
    · rename_i alike
      exact (unites_of_same tight stable steady entersA entersB alike).decides
    · split
      · cases entersA.settled.normal.condition_leaf
      · cases entersB.settled.normal.condition_leaf
      · exact (unites_everything entersA entersB clear).decides
      · exact (unites_everything entersB entersA clear.symm).symm.decides
      · exact decides_unionClauses tight stable steady entersA entersB
      · exact decides_unionLeaf tight stable steady entersA entersB
      · exact (decides_unionLeaf tight stable steady entersB entersA).symm
      · exact decides_merge_leaf tight stable steady entersA entersB clear

/-- What becomes of clauses that take in others, their alternatives apart. -/
structure Grows (gathering : Gathering) (content result : Clauses Node)
    (extra : (Role → String → Leaf → Prop) → Prop) : Prop where
  settled : result.AreSettled gathering.discipline
  admits : ∀ occur, occur ≠ .should →
    gathering.Admits occur.role (result.nodes occur)
  levels : ∀ occur, occur ≠ .should →
    gathering.Levels occur.role (result.nodes occur)
  passes : ∀ alliances, gathering.AreAllied .inter alliances →
    (Passes alliances .inter (.clauses result) ↔
      Passes alliances .inter (.clauses content) ∧ extra alliances)
  outlast : ∀ occur, Siblings.Outlast (content.nodes occur) (result.nodes occur)
  alternatives : result.bucket .should = content.bucket .should

theorem Grows.refl (enters : gathering.Enters .inter (.clauses content)) :
    gathering.Grows content content fun _ => True :=
  ⟨enters.settled.areSettled, admits_inter_iff.mp enters.admits,
    fun _ => levels_of_inter enters.levels,
    fun _ _ => (and_true _).symm ▸ Iff.rfl, fun _ => .refl _, rfl⟩

/-- The kinds of clauses but the alternatives have roles under intersection. -/
theorem role_mem_roles_inter (differs : occur ≠ .should) :
    occur.role ∈ MergeOperation.inter.roles := by
  cases occur <;> simp [Occur.role, MergeOperation.roles] at differs ⊢

/-- Clauses of one more kind come in. -/
theorem Grows.step
    {middle : Clauses Node}
    {extra : (Role → String → Leaf → Prop) → Prop}
    (grows : gathering.Grows content middle extra)
    (differs : occur ≠ .should)
    (takes : gathering.Takes occur middle nodes result) :
    gathering.Grows content result fun alliances =>
      extra alliances ∧ Accepts alliances occur.role nodes := by
  have others : ∀ kind, kind ≠ occur → result.nodes kind =
      middle.nodes kind := by
    intro kind differs
    rw [Clauses.nodes, takes.others kind differs]
    rfl
  refine ⟨takes.settled, fun kind conjunctive => ?_, fun kind conjunctive => ?_,
    fun alliances allied => ?_, fun kind => ?_,
    (takes.others .should differs.symm).trans grows.alternatives⟩
  · by_cases same : kind = occur
    · exact same ▸ takes.admits
    · exact (others kind same).symm ▸ grows.admits kind conjunctive
  · by_cases same : kind = occur
    · exact same ▸ takes.levels
    · exact (others kind same).symm ▸ grows.levels kind conjunctive
  · rw [← and_assoc, ← grows.passes alliances allied, passes_inter_iff,
      passes_inter_iff]
    have taken :=
      takes.accepts alliances (allied _ (role_mem_roles_inter differs))
    constructor
    · intro accepts
      have both := accepts_append_iff.mp (taken.mp (accepts occur differs))
      refine ⟨fun kind conjunctive => ?_, both.2⟩
      by_cases same : kind = occur
      · exact same ▸ both.1
      · exact others kind same ▸ accepts kind conjunctive
    · rintro ⟨accepts, more⟩ kind conjunctive
      by_cases same : kind = occur
      · subst same
        exact taken.mpr
          (accepts_append_iff.mpr ⟨accepts kind conjunctive, more⟩)
      · exact (others kind same).symm ▸ accepts kind conjunctive
  · by_cases same : kind = occur
    · subst same
      exact (grows.outlast kind).trans takes.outlast
    · exact (others kind same).symm ▸ grows.outlast kind

/-- Alliances decide whether clauses take in others. -/
structure Growth (gathering : Gathering) (content : Clauses Node)
    (extra : (Role → String → Leaf → Prop) → Prop)
    (outcome : Except Error (Clauses Node)) : Prop where
  succeeds : ∀ alliances, gathering.AreAllied .inter alliances →
    Passes alliances .inter (.clauses content) → extra alliances →
      ∃ result, outcome = .ok result
  grows : ∀ result, outcome = .ok result → gathering.Grows content result extra

/-- Clauses take in others in two steps. -/
theorem Growth.bind
    {extra total : (Role → String → Leaf → Prop) → Prop}
    {outcome : Except Error (Clauses Node)}
    {next : Clauses Node → Except Error (Clauses Node)}
    (first : gathering.Growth content extra outcome)
    (partly : ∀ alliances, total alliances → extra alliances)
    (second : ∀ middle, gathering.Grows content middle extra →
      gathering.Growth content total (next middle)) :
    gathering.Growth content total (outcome >>= next) := by
  constructor
  · intro alliances allied passes all
    obtain ⟨middle, rfl⟩ :=
      first.succeeds alliances allied passes (partly alliances all)
    exact (second middle (first.grows middle rfl)).succeeds alliances allied
      passes all
  · intro result success
    obtain ⟨middle, rfl, success⟩ := exists_of_bind_eq_ok success
    exact (second middle (first.grows middle rfl)).grows result success

/-- The merge of clauses with a tree is decided if that of the clauses is. -/
theorem Growth.decides
    {extra : (Role → String → Leaf → Prop) → Prop}
    {outcome : Except Error (Clauses Node)}
    {make : Clauses Node → Node}
    (growth : gathering.Growth content extra outcome)
    (passes : ∀ alliances, extra alliances ↔ Passes alliances .inter b)
    (unites : ∀ result, gathering.Grows content result extra →
      gathering.Unites .inter (.clauses content) b (make result)) :
    gathering.Decides .inter (.clauses content) b (outcome.map make) := by
  constructor
  · intro alliances allied passesContent passesB
    obtain ⟨result, rfl⟩ := growth.succeeds alliances allied passesContent
      ((passes alliances).mpr passesB)
    exact ⟨make result, rfl⟩
  · intro merged success
    cases outcome with
    | error error => cases success
    | ok result =>
        cases success
        exact unites result (growth.grows result rfl)

/-- A tree that is made of clauses that took in another tree stands for both. -/
theorem Grows.unites
    {extra : (Role → String → Leaf → Prop) → Prop}
    (grows : gathering.Grows content result extra)
    (steady : gathering.IsSteady .inter)
    (enters : gathering.Enters .inter (.clauses content))
    (passes : ∀ alliances, extra alliances ↔ Passes alliances .inter b)
    (same : ∀ occur, occur ≠ .should → final.nodes occur = result.nodes occur)
    (alternatives : final.nodes .should = content.nodes .should ∨
      content.nodes .should = [])
    (branches : final.bucket .should ≠ [] → (Node.clauses content).Branches ∨
      b.Branches) :
    gathering.Unites .inter (.clauses content) b final.node := by
  have normal := enters.settled.normal
  have outlast :
      ∀ occur, Siblings.Outlast (content.nodes occur) (final.nodes occur) := by
    intro occur
    by_cases isShould : occur = .should
    · subst isShould
      rcases alternatives with unchanged | none
      · exact unchanged ▸ .refl _
      · rw [none]
        refine ⟨?_, Nat.zero_le _⟩
        rintro ⟨_, isLeaf⟩
        cases isLeaf
    · exact (same occur isShould).symm ▸ grows.outlast occur
  have standing : ∀ role ∈ MergeOperation.inter.roles, ∀ leaf,
      .leaf leaf ∈ final.node.standing role ↔
        .leaf leaf ∈ (Node.clauses result).standing role := by
    intro role isRole leaf
    rw [Clauses.mem_standing_node_iff_of_outlast normal outlast alternatives
      isRole]
    simp only [MergeOperation.roles, List.mem_cons, List.not_mem_nil, or_false]
      at isRole
    rcases isRole with rfl | rfl
    · rw [Node.standing, Node.standing, same .must (by decide),
        same .filter (by decide)]
    · rw [Node.standing, Node.standing, same .mustNot (by decide)]
  have admits := admits_inter_iff.mpr grows.admits
  have levels := levels_inter steady grows.settled grows.admits grows.levels
  refine ⟨fun role isRole leaf isLeaf => ?_, fun role isRole => ?_,
    fun alliances allied => ?_, fun _ isBranching => ?_⟩
  · exact admits role isRole leaf ((standing role isRole leaf).mp isLeaf)
  · exact fun key x y c isX isY => levels role isRole key x y c
      ⟨(standing role isRole x).mp isX.1, isX.2⟩
      ⟨(standing role isRole y).mp isY.1, isY.2⟩
  · rw [← passes, ← grows.passes alliances allied]
    exact forall₂_congr fun role isRole =>
      forall_congr' fun leaf => imp_congr_left (standing role isRole leaf)
  · rcases final.node_eq_clauses_or with
      stays | ⟨-, occur, notExcluded, only, others⟩
    · rw [stays] at isBranching
      exact branches isBranching
    · obtain ⟨-, leaf, isLeaf⟩ :=
        Clauses.exists_leaf_of_outlast normal outlast notExcluded only others
      rw [isLeaf] at isBranching
      exact isBranching.elim

section Intersections

variable (tight : gathering.discipline.tight = true)
  (stable : Leaf.IsStable (Leaf.IsSound gathering.discipline))
  (steady : gathering.IsSteady .inter)
include tight stable steady

/-- Clauses of one kind take in others. -/
theorem Grows.absorbAll
    {middle : Clauses Node}
    {extra : (Role → String → Leaf → Prop) → Prop}
    (grows : gathering.Grows content middle extra)
    (differs : occur ≠ .should)
    (settle : ∀ node ∈ nodes, node.Settles gathering.discipline occur)
    (admitted : gathering.Admits occur.role nodes) :
    gathering.Growth content
      (fun alliances => extra alliances ∧ Accepts alliances occur.role nodes)
      (middle.absorbAll occur occur.operation nodes) := by
  have isRole := role_mem_roles_inter differs
  constructor
  · rintro alliances allied passes ⟨more, accepts⟩
    have passesMiddle :=
      passes_inter_iff.mp ((grows.passes alliances allied).mpr ⟨passes, more⟩)
    exact exists_absorbAll_of_accepts tight stable (steady _ isRole)
      (allied _ isRole) grows.settled (.inl differs)
      (grows.admits occur differs) (grows.levels occur differs) settle admitted
      (accepts_append_iff.mpr ⟨passesMiddle occur differs, accepts⟩)
  · intro result absorbed
    exact grows.step differs
      (takes_of_absorbAll tight stable (steady _ isRole) grows.settled
      (.inl differs) (grows.admits occur differs) (grows.levels occur differs)
        settle admitted absorbed)

section Clauses

variable (enters : gathering.Enters .inter (.clauses content))
include enters

/-- Alliances decide the intersection of clauses and a leaf. -/
theorem decides_interLeaf (leafEnters : gathering.Enters .inter (.leaf leaf)) :
    gathering.Decides .inter (.clauses content) (.leaf leaf)
      (content.interLeaf leaf) := by
  have conjunctive : (Node.leaf leaf).conjunctOccur ≠ .should ∧
      (Node.leaf leaf).conjunctOccur.role = .conjunct := by
    unfold Node.conjunctOccur
    split <;> exact ⟨by decide, rfl⟩
  have settle : ∀ node ∈ [Node.leaf leaf],
      node.Settles gathering.discipline (Node.leaf leaf).conjunctOccur :=
    List.forall_mem_singleton.mpr (leafEnters.settled.settles_leaf fun _ => rfl)
  have admitted :
      gathering.Admits (Node.leaf leaf).conjunctOccur.role [.leaf leaf] :=
    conjunctive.2 ▸ leafEnters.admits .conjunct List.mem_cons_self
  have passes : ∀ alliances,
      Accepts alliances (Node.leaf leaf).conjunctOccur.role
      [.leaf leaf] ↔ Passes alliances .inter (.leaf leaf) := by
    intro stones
    rw [conjunctive.2, passes_leaf_iff]
    simp [Accepts, MergeOperation.role]
  have absorbs : content.interLeaf leaf =
      (content.absorbAll (Node.leaf leaf).conjunctOccur
      (Node.leaf leaf).conjunctOccur.operation
        [.leaf leaf]).map Clauses.node := by
    rw [Clauses.interLeaf,
      if_neg (Bool.eq_false_iff.mp enters.settled.normal.clauses_isEmpty),
      Clauses.absorbAll_singleton, Node.operation_conjunctOccur]
    rfl
  rw [absorbs]
  refine ((Grows.refl enters).absorbAll tight stable steady conjunctive.1 settle
    admitted).decides
    (fun alliances => (iff_of_eq (true_and _)).trans (passes alliances))
      fun result grows => ?_
  refine grows.unites steady enters
    (fun alliances => (iff_of_eq (true_and _)).trans (passes alliances))
    (fun _ _ => rfl) (.inl ?_) fun isThere => .inl ?_
  · rw [Clauses.nodes, grows.alternatives]
    rfl
  · rw [grows.alternatives] at isThere
    exact isThere

variable (otherEnters : gathering.Enters .inter (.clauses other))
include otherEnters

/-- Alliances decide whether all clauses of two trees come together. -/
theorem decides_addConjuncts
    (alone : content.bucket .should = [] ∨ other.bucket .should = []) :
    gathering.Decides .inter (.clauses content) (.clauses other)
      (content.addConjuncts other) := by
  have settle : ∀ occur, ∀ node ∈ other.nodes occur,
      node.Settles gathering.discipline occur :=
    fun occur node => otherEnters.settled.areSettled.settles_of_mem
  have admitted := admits_inter_iff.mp otherEnters.admits
  have start := Grows.refl enters
  have growth : gathering.Growth content (fun alliances =>
      ((True ∧ Accepts alliances Occur.must.role (other.nodes .must)) ∧
        Accepts alliances Occur.filter.role (other.nodes .filter)) ∧
          Accepts alliances Occur.mustNot.role (other.nodes .mustNot))
      (content.absorbClauses other) := by
    refine (start.absorbAll tight stable steady (by decide) (settle .must)
      (admitted .must (by decide))).bind (fun _ all =>
        all.1.1) fun withMust musts => ?_
    refine (musts.absorbAll tight stable steady (by decide) (settle .filter)
      (admitted .filter (by decide))).bind (fun _ all =>
        all.1) fun withFilter filters => ?_
    exact filters.absorbAll tight stable steady (by decide) (settle .mustNot)
      (admitted .mustNot (by decide))
  have passes : ∀ alliances, (((True ∧
      Accepts alliances Occur.must.role (other.nodes .must)) ∧
        Accepts alliances Occur.filter.role (other.nodes .filter)) ∧
          Accepts alliances Occur.mustNot.role (other.nodes .mustNot)) ↔
      Passes alliances .inter (.clauses other) := by
    intro stones
    rw [passes_inter_iff]
    constructor
    · rintro ⟨⟨⟨-, must⟩, filter⟩, mustNot⟩ occur differs
      cases occur
      · exact must
      · exact filter
      · exact absurd rfl differs
      · exact mustNot
    · intro accepts
      exact ⟨⟨⟨trivial, accepts .must (by decide)⟩,
        accepts .filter (by decide)⟩,
        accepts .mustNot (by decide)⟩
  rw [Clauses.addConjuncts_eq]
  refine growth.decides passes fun result grows =>
    grows.unites steady enters passes ?_ ?_ ?_
  · intro occur differs
    unfold Clauses.takeAlternatives
    split <;> cases occur <;> first | rfl | exact absurd rfl differs
  · rcases alone with none | none
    · refine .inr ?_
      rw [Clauses.nodes, none]
      rfl
    · refine .inl ?_
      have unchanged : result.takeAlternatives other = result :=
        if_pos (List.isEmpty_iff.mpr none)
      rw [unchanged]
      exact congrArg Bucket.nodes grows.alternatives
  · intro isThere
    unfold Clauses.takeAlternatives at isThere
    split at isThere
    · exact .inl (show content.bucket .should ≠ []
        from grows.alternatives ▸ isThere)
    · exact .inr isThere

/-- Alliances decide the intersection of clauses. -/
theorem decides_interClauses
    (clear : gathering.IsClear .inter (.clauses content) (.clauses other)) :
    gathering.Decides .inter (.clauses content) (.clauses other)
      (content.inter other) := by
  have notEmpty := enters.settled.normal.clauses_isEmpty
  have otherNotEmpty := otherEnters.settled.normal.clauses_isEmpty
  unfold Clauses.inter
  rw [if_neg (Bool.eq_false_iff.mp notEmpty),
    if_neg (Bool.eq_false_iff.mp otherNotEmpty)]
  split
  · rename_i alone
    rw [Bool.or_eq_true, List.isEmpty_iff, List.isEmpty_iff] at alone
    exact decides_addConjuncts tight stable steady enters otherEnters alone
  · rename_i both
    rw [Bool.or_eq_true, List.isEmpty_iff, List.isEmpty_iff, not_or] at both
    have lax := (clear.unnested rfl).resolve_right (not_not_intro both)
    have standing := fun leaf =>
      @Node.mem_standing_both_iff (.clauses content) (.clauses other)
      (.leaf leaf) notEmpty otherNotEmpty
    have none : ∀ role ∈ MergeOperation.inter.roles, ∀ leaf,
        .leaf leaf ∉
          (Node.both (.clauses content) (.clauses other)).standing role := by
      intro role isRole leaf isLeaf
      simp only [MergeOperation.roles, List.mem_cons, List.not_mem_nil,
        or_false] at isRole
      rcases isRole with rfl | rfl
      · simpa using (standing leaf).1.mp isLeaf
      · rw [(standing leaf).2] at isLeaf
        cases isLeaf
    exact Unites.decides
      ⟨fun role isRole leaf isLeaf => absurd isLeaf (none role isRole leaf),
        fun role isRole _ x _ _ isX => absurd isX.1 (none role isRole x),
        fun alliances allied => iff_of_true
          (fun role isRole leaf isLeaf => absurd isLeaf (none role isRole leaf))
          ⟨lax.passes allied enters, lax.passes allied otherEnters⟩,
        fun _ branches =>
          absurd branches (not_branches_both notEmpty otherNotEmpty)⟩

end Clauses

/-- Alliances decide the intersection of trees. -/
theorem decides_inter
    (entersA : gathering.Enters .inter a)
    (entersB : gathering.Enters .inter b)
    (clear : gathering.IsClear .inter a b) :
    gathering.Decides .inter a b (a.inter b) := by
  have everything : ∀ {node : Node} {boost : Binary64},
      gathering.Enters .inter node →
      gathering.Enters .inter (.leaf (.everything boost)) →
        gathering.Unites .inter node (.leaf (.everything boost)) node :=
    fun enters broad => unites_left enters fun alliances allied _ =>
      passes_leaf_iff.mpr ((allied .conjunct List.mem_cons_self _).of_isBroad
        broad.attends rfl)
  unfold Node.inter
  split
  · exact decides_merge_leaf tight stable steady entersA entersB clear
  · split
    · rename_i alike
      exact (unites_of_same tight stable steady entersA entersB alike).decides
    · split
      · cases entersA.settled.normal.condition_leaf
      · cases entersB.settled.normal.condition_leaf
      · exact (everything entersB entersA).symm.decides
      · exact (everything entersA entersB).decides
      · exact decides_interClauses tight stable steady entersA entersB clear
      · exact decides_interLeaf tight stable steady entersA entersB
      · exact (decides_interLeaf tight stable steady entersB entersA).symm
      · exact decides_merge_leaf tight stable steady entersA entersB clear

end Intersections
section Runs

variable (tight : gathering.discipline.tight = true)
  (stable : Leaf.IsStable (Leaf.IsSound gathering.discipline))
  (steady : gathering.IsSteady operation)
include tight stable steady

/-- Alliances decide the merge of trees. -/
theorem decides_merge
    (entersA : gathering.Enters operation a)
    (entersB : gathering.Enters operation b)
    (clear : gathering.IsClear operation a b) :
    gathering.Decides operation a b (Node.merge operation a b) := by
  cases operation with
  | union => exact decides_union tight stable steady entersA entersB clear
  | inter => exact decides_inter tight stable steady entersA entersB clear

omit tight stable steady in
/-- What stands for two trees is as clear towards a third as both of them
are. -/
theorem Unites.clear
    {other : Node}
    (unites : gathering.Unites operation a b merged)
    (clearA : gathering.IsClear operation a other)
    (clearB : gathering.IsClear operation b other) :
    gathering.IsClear operation merged other := by
  refine ⟨clearA.unswallowed, fun isInter => ?_⟩
  rcases clearA.unnested isInter with lax | aloneA
  · exact .inl lax
  · rcases clearB.unnested isInter with lax | aloneB
    · exact .inl lax
    · refine .inr fun ⟨branches, otherBranches⟩ => ?_
      rcases unites.branches isInter branches with branchesA | branchesB
      · exact aloneA ⟨branchesA, otherBranches⟩
      · exact aloneB ⟨branchesB, otherBranches⟩

/-- Trees merge one after the other where alliances pass all of them, and what
they merge to passes the alliances that all of them pass. -/
theorem decides_foldlM
    {first : Node}
    {rest : List Node}
    (enters : ∀ node ∈ first :: rest, gathering.Enters operation node)
    (clear : (first :: rest).Pairwise (gathering.IsClear operation)) :
    (∀ alliances, gathering.AreAllied operation alliances →
      (∀ node ∈ first :: rest, Passes alliances operation node) →
      ∃ merged, rest.foldlM (Node.merge operation) first = .ok merged) ∧
    ∀ merged, rest.foldlM (Node.merge operation) first = .ok merged →
      gathering.Enters operation merged ∧
        ∀ alliances, gathering.AreAllied operation alliances →
          (Passes alliances operation merged ↔
            ∀ node ∈ first :: rest, Passes alliances operation node) := by
  induction rest generalizing first with
  | nil =>
      refine ⟨fun _ _ _ => ⟨first, rfl⟩, ?_⟩
      rintro _ ⟨⟩
      refine ⟨enters first List.mem_cons_self, fun alliances _ => ?_⟩
      rw [List.forall_mem_singleton]
  | cons next rest hypothesis =>
      obtain ⟨entersFirst, entersNext, entersRest⟩ :
          gathering.Enters operation first ∧ gathering.Enters operation next ∧
            ∀ node ∈ rest, gathering.Enters operation node := by
        simpa only [List.forall_mem_cons] using enters
      rw [List.pairwise_cons, List.pairwise_cons, List.forall_mem_cons] at clear
      obtain ⟨⟨clearNext, clearFirst⟩, clearRest, pairwise⟩ := clear
      have decides :=
        decides_merge tight stable steady entersFirst entersNext clearNext
      have later : ∀ joined, Node.merge operation first next = .ok joined →
          (∀ node ∈ joined :: rest, gathering.Enters operation node) ∧
            (joined :: rest).Pairwise (gathering.IsClear operation) := by
        intro joined joins
        have unites := decides.unites joined joins
        refine ⟨List.forall_mem_cons.mpr
          ⟨⟨?_, unites.admits, unites.levels⟩, entersRest⟩,
          List.pairwise_cons.mpr ⟨fun node isNode => ?_, pairwise⟩⟩
        · exact entersFirst.settled.merge stable entersNext.settled joins
        · exact unites.clear (clearFirst node isNode) (clearRest node isNode)
      rw [List.foldlM_cons]
      constructor
      · intro alliances allied passes
        rw [List.forall_mem_cons, List.forall_mem_cons] at passes
        obtain ⟨passesFirst, passesNext, passesRest⟩ := passes
        obtain ⟨joined, joins⟩ :=
          decides.succeeds alliances allied passesFirst passesNext
        obtain ⟨entersLater, clearLater⟩ := later joined joins
        have passesJoined :=
          ((decides.unites joined joins).passes alliances allied).mpr
            ⟨passesFirst, passesNext⟩
        rw [joins]
        exact (hypothesis entersLater clearLater).1 alliances allied
          (List.forall_mem_cons.mpr ⟨passesJoined, passesRest⟩)
      · intro merged success
        obtain ⟨joined, joins, success⟩ := exists_of_bind_eq_ok success
        obtain ⟨entersLater, clearLater⟩ := later joined joins
        obtain ⟨entersMerged, passes⟩ :=
          (hypothesis entersLater clearLater).2 merged success
        refine ⟨entersMerged, fun alliances allied => ?_⟩
        rw [passes alliances allied, List.forall_mem_cons, List.forall_mem_cons,
          List.forall_mem_cons,
          (decides.unites joined joins).passes alliances allied, and_assoc]

/-- Every tree passes some alliances. -/
theorem exists_passes (enters : gathering.Enters operation a) :
    ∃ alliances, gathering.AreAllied operation alliances ∧
      Passes alliances operation a := by
  have alliance : ∀ role key, ∃ among, role ∈ operation.roles →
      gathering.IsAlliance role key among ∧
        ∀ leaf, Siblings.At (a.standing role) key leaf → among leaf := by
    intro role key
    by_cases isRole : role ∈ operation.roles
    · have attends : ∀ leaf, Siblings.At (a.standing role) key leaf →
          gathering.Attends role key leaf := by
        rintro leaf ⟨isLeaf, rfl⟩
        exact enters.admits role isRole leaf isLeaf
      obtain ⟨among, isAlliance, within⟩ := exists_isAlliance tight stable
        (steady role isRole key) attends (enters.levels role isRole key)
      exact ⟨among, fun _ => ⟨isAlliance, within⟩⟩
    · exact ⟨fun _ => False, fun isThere => absurd isThere isRole⟩
  choose alliances isAlliance using alliance
  exact ⟨alliances, fun role isRole key => (isAlliance role key isRole).1,
    fun role isRole leaf isLeaf =>
      (isAlliance role leaf.key isRole).2 leaf ⟨isLeaf, rfl⟩⟩

/-- Trees merge where some alliances pass all of them. -/
theorem exists_mergeAll_iff
    (enters : ∀ node ∈ nodes, gathering.Enters operation node)
    (clear : nodes.Pairwise (gathering.IsClear operation)) :
    (∃ merged, Node.mergeAll operation nodes = .ok merged) ↔
      nodes ≠ [] ∧ ∃ alliances, gathering.AreAllied operation alliances ∧
        ∀ node ∈ nodes, Passes alliances operation node := by
  cases nodes with
  | nil => simp [Node.mergeAll]
  | cons first rest =>
      obtain ⟨succeeds, unites⟩ :=
        decides_foldlM tight stable steady enters clear
      constructor
      · rintro ⟨merged, success⟩
        obtain ⟨entersMerged, passes⟩ := unites merged success
        obtain ⟨alliances, allied, passesMerged⟩ :=
          exists_passes tight stable steady entersMerged
        exact ⟨List.cons_ne_nil _ _, alliances, allied,
          (passes alliances allied).mp passesMerged⟩
      · rintro ⟨-, alliances, allied, passes⟩
        exact succeeds alliances allied passes

/-- Whether trees merge does not depend on their order. -/
theorem exists_mergeAll_iff_of_perm
    {others : List Node}
    (permutes : nodes.Perm others)
    (enters : ∀ node ∈ nodes, gathering.Enters operation node)
    (clear : nodes.Pairwise (gathering.IsClear operation)) :
    (∃ merged, Node.mergeAll operation nodes = .ok merged) ↔
      ∃ merged, Node.mergeAll operation others = .ok merged := by
  rw [exists_mergeAll_iff tight stable steady enters clear,
    exists_mergeAll_iff tight stable steady
      (fun node isNode => enters node (permutes.symm.subset isNode))
      (permutes.pairwise clear IsClear.symm)]
  simp only [ne_eq, ← List.isEmpty_iff, permutes.isEmpty_eq, permutes.mem_iff]

end Runs
end Gathering
end SearchQuery
