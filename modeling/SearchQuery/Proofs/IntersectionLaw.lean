import SearchQuery.Proofs.Absorption

/-!
# The intersection law

The intersection of well-formed trees holds where both of them do, and trees are
in conflict only if no document matches both. What must hold comes together by
intersection and what must not hold by union, so that ranges that must not hold
have to leave a place for a value.
-/

namespace SearchQuery

variable {discipline : Discipline} {engine : Engine} {document : StoredDocument}

/-- The same discipline, under which every range leaves a place for a value. -/
def Discipline.tightened (discipline : Discipline) : Discipline :=
  { discipline with tight := true }

/-- The node is no range that leaves no place for a value. -/
def Node.IsTight (node : Node) : Prop :=
  ∀ range, node = .leaf (.range range) → range.isEmpty = false

/-- Ranges among the clauses that must not hold leave a place for a value. -/
def Node.ExcludesTightly (node : Node) : Prop :=
  ∀ content, node = .clauses content → ∀ member ∈ content.nodes .mustNot,
    member.IsTight

/-- A leaf that is no empty range keeps to the tightened discipline. -/
theorem Leaf.Keeps.tightened
    {leaf : Leaf}
    (keeps : leaf.Keeps discipline)
    (tight : (Node.leaf leaf).IsTight) :
    leaf.Keeps discipline.tightened := by
  cases leaf
  case range content =>
    have range : content.Keeps discipline := keeps
    exact ⟨range.typed, range.ordered, range.isOf, fun _ => tight content rfl⟩
  all_goals exact keeps

/-- A leaf that keeps to the tightened discipline keeps to the discipline. -/
theorem Leaf.Keeps.of_tightened {leaf : Leaf}
    (keeps : leaf.Keeps discipline.tightened) :
    leaf.Keeps discipline := by
  cases leaf
  case range content =>
    have range : content.Keeps discipline.tightened := keeps
    exact ⟨range.typed, range.ordered, range.isOf, fun _ => range.nonempty rfl⟩
  all_goals exact keeps

theorem Leaf.Keeps.isTight {leaf : Leaf}
    (keeps : leaf.Keeps discipline.tightened) :
    (Node.leaf leaf).IsTight := by
  rintro range ⟨rfl⟩
  exact keeps.nonempty rfl

/-- The nodes that may be united: well-formed ones that are no empty ranges. -/
def Node.IsUnitable (discipline : Discipline) (node : Node) : Prop :=
  node.WellFormed (Leaf.Keeps discipline) ∧ node.IsTight

/-- Union is sound on the nodes that may be united. -/
theorem isSound_isUnitable :
    MergeOperation.union.IsSound discipline (Node.IsUnitable discipline) := by
  have merges : ∀ a b, (Node.leaf a).IsUnitable discipline →
      (Node.leaf b).IsUnitable discipline →
      MergeOperation.union.Merges discipline.tightened (.leaf a) (.leaf b)
        (a.union b) := by
    rintro a b ⟨formedA, tightA⟩ ⟨formedB, tightB⟩
    exact Leaf.merges_union
      (.leaf formedA.condition_leaf (formedA.lawful_leaf.tightened tightA))
      (.leaf formedB.condition_leaf (formedB.lawful_leaf.tightened tightB)) rfl
  constructor
  · exact fun _ => And.left
  · intro a b unitableA unitableB
    have tightened := merges a b unitableA unitableB
    change MergeOperation.union.Merges discipline _ _ (a.union b)
    cases outcome : a.union b with
    | error error =>
        rw [outcome] at tightened
        exact tightened
    | ok merged =>
        rw [outcome] at tightened
        exact ⟨tightened.formed.mono fun _ => Leaf.Keeps.of_tightened,
          tightened.holds⟩
  · intro a b merged unitableA unitableB success
    have tightened := merges a b unitableA unitableB
    rw [show a.union b = .ok (.leaf merged) from success] at tightened
    exact ⟨tightened.formed.mono fun _ => Leaf.Keeps.of_tightened,
      tightened.formed.lawful_leaf.isTight⟩

namespace Clauses

/-- What clauses become when a test restricts them through clauses of some
kinds. -/
structure Restricts (discipline : Discipline) (clauses : Clauses Node)
    (kinds : List Occur)
    (test : Engine → StoredDocument → Bool) (result : Clauses Node) : Prop where
  formed : result.AreWellFormed (Leaf.Keeps discipline)
  nonempty : clauses.isEmpty = false → result.isEmpty = false
  others : ∀ occur, occur ∉ kinds → result.bucket occur = clauses.bucket occur
  holds : discipline.IsSeparated → ∀ engine document,
    document.Fits discipline.types →
    (Node.clauses result).holds engine document =
      ((Node.clauses clauses).holds engine document && test engine document)

/-- The outcome of a restriction is right: clauses are restricted by the test,
and an error is an exclusion only if the test fails wherever the clauses
hold. -/
def Restriction (discipline : Discipline) (clauses : Clauses Node)
    (kinds : List Occur)
    (test : Engine → StoredDocument → Bool) : Except Error (Clauses Node) → Prop
  | .ok result => clauses.Restricts discipline kinds test result
  | .error error => error.isExclusion = true → discipline.IsSeparated →
      ∀ engine document, document.Fits discipline.types →
        ((Node.clauses clauses).holds engine document &&
          test engine document) = false

/-- Restrictions one after the other restrict by both tests. -/
theorem Restriction.bind
    {clauses : Clauses Node}
    {kinds others : List Occur}
    {test next : Engine → StoredDocument → Bool}
    {outcome : Except Error (Clauses Node)}
    {continuation : Clauses Node → Except Error (Clauses Node)}
    (first : clauses.Restriction discipline kinds test outcome)
    (second : ∀ result, clauses.Restricts discipline kinds test result →
      result.Restriction discipline others next (continuation result)) :
    clauses.Restriction discipline (kinds ++ others)
      (fun engine document => test engine document && next engine document)
      (outcome >>= continuation) := by
  cases outcome with
  | error error =>
      intro exclusion separated engine document fits
      rw [← Bool.and_assoc, first exclusion separated engine document fits]
      rfl
  | ok result =>
      have restricts : clauses.Restricts discipline kinds test result := first
      have continued := second result restricts
      change Restriction _ _ _ _ (continuation result)
      cases continues : continuation result with
      | error error =>
          rw [continues] at continued
          intro exclusion separated engine document fits
          rw [← Bool.and_assoc,
            ← restricts.holds separated engine document fits]
          exact continued exclusion separated engine document fits
      | ok last =>
          rw [continues] at continued
          have restrictsLast :
              result.Restricts discipline others next last := continued
          refine ⟨restrictsLast.formed,
            fun nonempty =>
              restrictsLast.nonempty (restricts.nonempty nonempty), ?_, ?_⟩
          · intro occur isOther
            rw [List.mem_append, not_or] at isOther
            exact (restrictsLast.others occur isOther.2).trans
              (restricts.others occur isOther.1)
          · intro separated engine document fits
            rw [restrictsLast.holds separated engine document fits,
              restricts.holds separated engine document fits, Bool.and_assoc]

/-- Where clauses hold, all that must hold does. -/
theorem all_of_holds
    {clauses : Clauses Node}
    {occur : Occur}
    (conjunctive : occur = .must ∨ occur = .filter)
    (holds : (Node.clauses clauses).holds engine document = true) :
    (clauses.nodes occur).all (Node.holds engine document) = true := by
  simp only [Node.holds_clauses, Bool.and_eq_true, verdicts, List.all_map]
    at holds
  rcases conjunctive with rfl | rfl
  · exact holds.1.1.1
  · exact holds.1.1.2

/-- To absorb one node is to absorb a list of one node. -/
theorem absorbAll_singleton
    (clauses : Clauses Node)
    (occur : Occur)
    (operation : MergeOperation)
    (node : Node) :
    clauses.absorbAll occur operation [node] =
      clauses.absorb occur operation node := by
  simp [absorbAll]

section Absorbing

variable {clauses : Clauses Node} {occur : Occur} {nodes : List Node}
  (formed : clauses.AreWellFormed (Leaf.Keeps discipline))
  (nodesFormed : ∀ node ∈ nodes, node.WellFormed (Leaf.Keeps discipline))
include formed nodesFormed

/-- Clauses that absorb what must hold are restricted to it, and in conflict
with it only if no document matches both. -/
theorem restriction_of_conjuncts
    (conjunctive : occur = .must ∨ occur = .filter) :
    clauses.Restriction discipline [occur]
      (fun engine document => nodes.all (Node.holds engine document))
      (clauses.absorbAll occur .inter nodes) := by
  have sound :
      MergeOperation.inter.IsSound discipline
        (Node.WellFormed (Leaf.Keeps discipline)) :=
    MergeOperation.isSound_wellFormed (by intro; contradiction)
  have given := formed.members occur
  cases absorbed : clauses.absorbAll occur .inter nodes with
  | ok result =>
      have gains := gains_of_absorbAll sound formed given nodesFormed absorbed
      refine ⟨gains.formed, fun nonempty => gains.nonempty (.inl nonempty),
        fun other isOther =>
          gains.others other (mt List.mem_singleton.mpr isOther), ?_⟩
      intro separated engine document fits
      rw [(gains.joins separated engine document fits).holds_conjunct
        conjunctive,
        MergeOperation.joinAll, List.all_map]
      rfl
  | error error =>
      intro exclusion separated engine document fits
      obtain ⟨_, excludes⟩ := excludes_of_absorbAll sound formed given
        nodesFormed absorbed
        exclusion
      have apart := excludes separated engine document fits
      rw [Bool.eq_false_iff] at apart ⊢
      intro both
      obtain ⟨holds, all⟩ := Bool.and_eq_true_iff.mp both
      apply apart
      rw [List.all_append, all_of_holds conjunctive holds]
      exact all

/-- Clauses that absorb what must not hold are restricted to where it does not,
and are in no conflict with it. -/
theorem restriction_of_exclusions
    (tight : ∀ member ∈ clauses.nodes .mustNot, member.IsTight)
    (nodesTight : ∀ node ∈ nodes, node.IsTight) :
    clauses.Restriction discipline [.mustNot]
      (fun engine document => nodes.all fun node => !node.holds engine document)
      (clauses.absorbAll .mustNot .union nodes) := by
  have given : ∀ member ∈ clauses.nodes .mustNot,
      member.IsUnitable discipline :=
    fun member isMember =>
      ⟨formed.members .mustNot member isMember, tight member isMember⟩
  have nodesUnitable : ∀ node ∈ nodes, node.IsUnitable discipline :=
    fun node isNode => ⟨nodesFormed node isNode, nodesTight node isNode⟩
  cases absorbed : clauses.absorbAll .mustNot .union nodes with
  | error error =>
      intro exclusion
      cases (excludes_of_absorbAll isSound_isUnitable formed given
        nodesUnitable absorbed
        exclusion).1
  | ok result =>
      have gains :=
        gains_of_absorbAll isSound_isUnitable formed given
          nodesUnitable absorbed
      refine ⟨gains.formed, fun nonempty => gains.nonempty (.inl nonempty),
        fun other isOther =>
          gains.others other (mt List.mem_singleton.mpr isOther), ?_⟩
      intro separated engine document fits
      rw [(gains.joins separated engine document fits).holds_mustNot,
        MergeOperation.joinAll, ← all_not_eq, List.all_map]
      rfl

end Absorbing

section Alternatives

variable {clauses other : Clauses Node}

/-- Take over the alternatives of other clauses. -/
def takeAlternatives (clauses other : Clauses Node) : Clauses Node :=
  if other.should.isEmpty then clauses
  else
    { clauses with
      should := other.should
      minimumShould := max other.minimumShould 1 }

/-- Clauses that take over alternatives are well-formed. -/
theorem AreWellFormed.takeAlternatives
    {law : Leaf → Prop}
    (formed : clauses.AreWellFormed law)
    (otherFormed : other.AreWellFormed law) :
    (clauses.takeAlternatives other).AreWellFormed law := by
  unfold Clauses.takeAlternatives
  split
  · exact formed
  · constructor
    · refine ⟨?_, ?_, fun _ => Nat.le_max_right _ _⟩
      · intro occur
        cases occur
        · exact formed.shaped.keys .must
        · exact formed.shaped.keys .filter
        · exact otherFormed.shaped.keys .should
        · exact formed.shaped.keys .mustNot
      · intro occur
        cases occur
        · exact formed.shaped.members .must
        · exact formed.shaped.members .filter
        · exact otherFormed.shaped.members .should
        · exact formed.shaped.members .mustNot
    · intro occur
      cases occur
      · exact formed.members .must
      · exact formed.members .filter
      · exact otherFormed.members .should
      · exact formed.members .mustNot

theorem isEmpty_takeAlternatives (nonempty : clauses.isEmpty = false) :
    (clauses.takeAlternatives other).isEmpty = false := by
  unfold takeAlternatives
  split
  · exact nonempty
  · rename_i isThere
    simp [isEmpty, isThere]

/-- Alternatives that are taken over where there are none, or that are none,
restrict the clauses to where enough of them hold. -/
theorem holds_takeAlternatives
    (alone : clauses.should.isEmpty = true ∨ other.should.isEmpty = true)
    (shaped : other.IsShaped) :
    (Node.clauses (clauses.takeAlternatives other)).holds engine document =
      ((Node.clauses clauses).holds engine document &&
        meetsMinimum other.minimumShould
          (other.verdicts engine document .should)) := by
  have unneeded : ∀ (content : Clauses Node), content.should.isEmpty = true →
      meetsMinimum content.minimumShould
        (content.verdicts engine document .should) = true := by
    intro content noAlternatives
    rw [verdicts, nodes,
      show content.bucket .should = [] from List.isEmpty_iff.mp noAlternatives]
    rfl
  unfold takeAlternatives
  split
  · rename_i noneThere
    rw [unneeded other noneThere, Bool.and_true]
  · rename_i isThere
    have raised : max other.minimumShould 1 = other.minimumShould :=
      Nat.max_eq_left
        (shaped.minimum
          (List.isEmpty_eq_false_iff.mp (Bool.not_eq_true _ ▸ isThere)))
    have noneHere := alone.resolve_right isThere
    rw [raised,
      Node.holds_clauses, Node.holds_clauses clauses, unneeded clauses noneHere,
      Bool.and_true]
    rfl

end Alternatives

section Merging

variable {a b : Clauses Node} {leaf : Leaf}
  (formedA : (Node.clauses a).WellFormed (Leaf.Keeps discipline))
include formedA

/-- The intersection of clauses and a leaf is right. -/
theorem merges_interLeaf
    (formedB : (Node.leaf leaf).WellFormed (Leaf.Keeps discipline)) :
    MergeOperation.inter.Merges discipline (.clauses a) (.leaf leaf)
      (a.interLeaf leaf) := by
  have formed := formedA.areWellFormed
  have nodesFormed :
      ∀ node ∈ [Node.leaf leaf], node.WellFormed (Leaf.Keeps discipline) := by
    simpa using formedB
  have conjunctive : (if leaf.isFilter then Occur.filter else .must) = .must ∨
      (if leaf.isFilter then Occur.filter else .must) = .filter := by
    split
    · exact .inr rfl
    · exact .inl rfl
  have restriction :=
    restriction_of_conjuncts formedA.areWellFormed nodesFormed conjunctive
  unfold interLeaf
  rw [if_neg (Bool.eq_false_iff.mp formedA.clauses_isEmpty)]
  rw [absorbAll_singleton] at restriction
  cases absorbed :
    a.absorb (if leaf.isFilter then .filter else .must) .inter (.leaf leaf) with
  | error error =>
      rw [absorbed] at restriction
      refine fun exclusion => ⟨rfl, fun separated engine document fits => ?_⟩
      have apart := restriction exclusion separated engine document fits
      simpa using apart
  | ok result =>
      rw [absorbed] at restriction
      have restricts : a.Restricts discipline _ _ result := restriction
      refine ⟨restricts.formed.node
        (restricts.nonempty formedA.clauses_isEmpty),
        fun separated engine document fits => ?_⟩
      rw [holds_node restricts.formed.shaped,
        restricts.holds separated engine document fits]
      simp [MergeOperation.join]

/-- Absorb all clauses of another node but its alternatives. -/
def absorbClauses (clauses other : Clauses Node) :
    Except Error (Clauses Node) := do
  let merged ← clauses.absorbAll .must .inter (other.nodes .must)
  let merged ← merged.absorbAll .filter .inter (other.nodes .filter)
  merged.absorbAll .mustNot .union (other.nodes .mustNot)

omit formedA in
/-- Clauses come together by absorbing one another and then taking over
alternatives. -/
theorem addConjuncts_eq (a b : Clauses Node) :
    a.addConjuncts b = (a.absorbClauses b).map fun merged =>
      { merged.takeAlternatives b with
        operators :=
          (merged.takeAlternatives b).operators.union b.operators }.node := by
  change _ = _ <$> a.absorbClauses b
  simp only [absorbClauses, map_bind]
  simp only [addConjuncts, map_eq_pure_bind]
  rfl

/-- Absorbing the clauses of another node restricts to where these hold. -/
theorem restriction_absorbClauses
    (formedB : (Node.clauses b).WellFormed (Leaf.Keeps discipline))
    (tightA : (Node.clauses a).ExcludesTightly)
    (tightB : (Node.clauses b).ExcludesTightly) :
    a.Restriction discipline [.must, .filter, .mustNot]
      (fun engine document =>
        (b.nodes .must).all (Node.holds engine document) &&
        ((b.nodes .filter).all (Node.holds engine document) &&
          (b.nodes .mustNot).all fun node => !node.holds engine document))
      (a.absorbClauses b) := by
  have clausesB := formedB.areWellFormed
  refine (restriction_of_conjuncts formedA.areWellFormed
    (clausesB.members .must)
    (.inl rfl)).bind fun withMust musts => ?_
  refine (restriction_of_conjuncts musts.formed (clausesB.members .filter)
    (.inr rfl)).bind fun withFilter filters => ?_
  refine restriction_of_exclusions filters.formed (clausesB.members .mustNot) ?_
    (tightB b rfl)
  rw [nodes, filters.others .mustNot (by decide),
    musts.others .mustNot (by decide)]
  exact tightA a rfl

/-- The intersection of clauses is right where they come together. -/
theorem merges_addConjuncts
    (formedB : (Node.clauses b).WellFormed (Leaf.Keeps discipline))
    (tightA : (Node.clauses a).ExcludesTightly)
    (tightB : (Node.clauses b).ExcludesTightly)
    (alone : a.should.isEmpty = true ∨ b.should.isEmpty = true) :
    MergeOperation.inter.Merges discipline (.clauses a) (.clauses b)
      (a.addConjuncts b) := by
  have restriction := restriction_absorbClauses formedA formedB tightA tightB
  rw [addConjuncts_eq]
  cases absorbed : a.absorbClauses b with
  | error error =>
      rw [absorbed] at restriction
      refine fun exclusion => ⟨rfl, fun separated engine document fits => ?_⟩
      rw [holds_eq_and b, ← Bool.and_assoc]
      rw [restriction exclusion separated engine document fits]
      rfl
  | ok merged =>
      rw [absorbed] at restriction
      have restricts : a.Restricts discipline _ _ merged := restriction
      have clausesB := formedB.areWellFormed
      have moved := restricts.formed.takeAlternatives clausesB
      have resultFormed := moved.withOperators
        ((merged.takeAlternatives b).operators.union b.operators)
      have aloneMerged : merged.should.isEmpty = true ∨
          b.should.isEmpty = true := by
        rw [show merged.should = a.should
          from restricts.others .should (by decide)]
        exact alone
      constructor
      · exact resultFormed.node
          (isEmpty_takeAlternatives
            (restricts.nonempty formedA.clauses_isEmpty))
      · intro separated engine document fits
        rw [holds_node resultFormed.shaped, holds_withOperators,
          holds_takeAlternatives aloneMerged clausesB.shaped,
          restricts.holds separated engine document fits, Bool.and_assoc]
        rw [holds_eq_and b]
        rfl

/-- The intersection of clauses is right. -/
theorem merges_inter
    (formedB : (Node.clauses b).WellFormed (Leaf.Keeps discipline))
    (tightA : (Node.clauses a).ExcludesTightly)
    (tightB : (Node.clauses b).ExcludesTightly) :
    MergeOperation.inter.Merges discipline (.clauses a) (.clauses b)
      (a.inter b) := by
  unfold Clauses.inter
  rw [if_neg (Bool.eq_false_iff.mp formedA.clauses_isEmpty),
    if_neg (Bool.eq_false_iff.mp formedB.clauses_isEmpty)]
  split
  · rename_i alone
    exact merges_addConjuncts formedA formedB tightA tightB
      (Bool.or_eq_true_iff.mp alone)
  · exact .both formedA formedB

end Merging

end Clauses

variable {a b : Node}

/-- The intersection of well-formed trees is right. -/
theorem Node.merges_inter
    (formedA : a.WellFormed (Leaf.Keeps discipline))
    (formedB : b.WellFormed (Leaf.Keeps discipline))
    (tightA : a.ExcludesTightly)
    (tightB : b.ExcludesTightly) :
    MergeOperation.inter.Merges discipline a b (a.inter b) := by
  unfold Node.inter
  split
  · exact Leaf.merges_inter formedA formedB
  · split
    · rename_i alike
      exact .of_holds_eq formedA fun engine document fits =>
        holds_eq_of_same formedA formedB fits alike
    · split
      · cases formedA.condition_leaf
      · cases formedB.condition_leaf
      · exact ⟨formedB,
          fun _ _ _ _ => by simp [Leaf.holds, MergeOperation.join]⟩
      · exact ⟨formedA,
          fun _ _ _ _ => by simp [Leaf.holds, MergeOperation.join]⟩
      · exact Clauses.merges_inter formedA formedB tightA tightB
      · exact Clauses.merges_interLeaf formedA formedB
      · exact .symm (Clauses.merges_interLeaf formedB formedA)
      · exact Leaf.merges_inter formedA formedB

/-- The intersection of two well-formed trees, if there is one, holds for the
documents for which both trees hold. If the trees are in conflict, no document
matches both. -/
theorem Node.holds_inter
    (separated : discipline.IsSeparated)
    (formedA : a.WellFormed (Leaf.Keeps discipline))
    (formedB : b.WellFormed (Leaf.Keeps discipline))
    (tightA : a.ExcludesTightly)
    (tightB : b.ExcludesTightly)
    (fits : document.Fits discipline.types) :
    (∀ merged, a.inter b = .ok merged →
      merged.holds engine document =
        (a.holds engine document && b.holds engine document)) ∧
    (∀ error, a.inter b = .error error → error.isExclusion = true →
      (a.holds engine document && b.holds engine document) = false) := by
  have merges := merges_inter formedA formedB tightA tightB
  constructor
  · intro merged success
    rw [success] at merges
    exact merges.holds separated engine document fits
  · intro error failure exclusion
    rw [failure] at merges
    exact (merges exclusion).2 separated engine document fits

/-- A size that is neither between one and three nor three is outside of the
range that ends with three, and no size is one and two. -/
theorem Node.holds_inter_sizeIs :
    (Node.leaf (.range ⟨.ofSize, some ⟨.gt, .int 1⟩, some ⟨.lte, .int 3⟩, none,
          none⟩)).negated.holds default (.ofSize 5) =
        ((Node.leaf (.sizeBetween 1 3)).negated.holds default (.ofSize 5) &&
          (Node.leaf (.sizeIs 3)).negated.holds default (.ofSize 5)) ∧
      ((Node.leaf (.sizeIs 1)).holds default (.ofSize 2) &&
        (Node.leaf (.sizeIs 2)).holds default (.ofSize 2)) = false := by
  have separated := Discipline.isSeparated_ofIntegers false
  constructor
  · have between := wellFormed_negated (Leaf.wellFormed_sizeBetween 1 3)
    have three := wellFormed_negated (Leaf.wellFormed_sizeIs 3 false)
    have betweenIsTight :
        (Node.leaf (.sizeBetween 1 3)).negated.ExcludesTightly := by
      rintro _ ⟨⟩ member isMember range rfl
      cases List.mem_singleton.mp isMember
      with_unfolding_all rfl
    have threeIsTight : (Node.leaf (.sizeIs 3)).negated.ExcludesTightly := by
      rintro _ ⟨⟩ member isMember range rfl
      cases List.mem_singleton.mp isMember
    refine (holds_inter separated between three betweenIsTight threeIsTight
      (StoredDocument.fits_ofSize 5 false)).1 _ ?_
    with_unfolding_all rfl
  · exact (holds_inter separated (Leaf.wellFormed_sizeIs 1 false)
      (Leaf.wellFormed_sizeIs 2 false)
      (by rintro _ ⟨⟩) (by rintro _ ⟨⟩)
        (StoredDocument.fits_ofSize 2 false)).2 _ rfl rfl

/-- Without the condition on what must not hold the law fails. A range that
leaves no place for a value is united with the value at its ends, and then still
leaves no place for it. -/
theorem Node.not_forall_holds_inter :
    ¬∀ (discipline : Discipline) (engine : Engine) (document : StoredDocument)
      (a b merged : Node), discipline.IsSeparated →
        a.WellFormed (Leaf.Keeps discipline) →
      b.WellFormed (Leaf.Keeps discipline) → document.Fits discipline.types →
      a.inter b = .ok merged →
      merged.holds engine document =
        (a.holds engine document && b.holds engine document) := by
  intro law
  have intersection :
      (Node.leaf (.sizeBetween 5 5)).negated.inter
        (Node.leaf (.sizeIs 5)).negated =
        .ok (Node.leaf
          (.range ⟨.ofSize, some ⟨.gte, .int 5⟩, some ⟨.lt, .int 5⟩, none,
          none⟩)).negated := by
    with_unfolding_all rfl
  have holds := law (.ofIntegers false) default (.ofSize 5) _ _ _
    (Discipline.isSeparated_ofIntegers false)
    (wellFormed_negated (Leaf.wellFormed_sizeBetween 5 5))
    (wellFormed_negated (Leaf.wellFormed_sizeIs 5 false))
    (StoredDocument.fits_ofSize 5 false) intersection
  cases holds

end SearchQuery
