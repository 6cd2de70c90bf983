import SearchQuery.Proofs.Conditions

/-!
# How many alternatives are asked for

Clauses may ask for any number of their alternatives, and for none of them.
Merges of trees that are put together so are right but for alternatives that are
moved: a union puts the alternatives of disjunctions together, and an
intersection puts those of one side under the other clauses. At least one of
them is asked for then, even if none was before.
-/

namespace SearchQuery

variable {discipline : Discipline} {operation : MergeOperation}
  {engine : Engine}
  {document : StoredDocument}

namespace Clauses

section Minimum

variable {α : Type} {clauses : Clauses α}

/-- Ask for a number of alternatives. -/
def withMinimum (clauses : Clauses α) (count : Nat) : Clauses α :=
  { clauses with minimumShould := count }

@[simp] theorem bucket_withMinimum (clauses : Clauses α) (count : Nat)
    (occur : Occur) :
    (clauses.withMinimum count).bucket occur = clauses.bucket occur := by
  cases occur <;> rfl

@[simp] theorem nodes_withMinimum (clauses : Clauses α) (count : Nat)
    (occur : Occur) :
    (clauses.withMinimum count).nodes occur = clauses.nodes occur := by
  rw [nodes, bucket_withMinimum, nodes]

/-- The groups have different keys whatever number of alternatives is asked
for. -/
theorem IsKeyed.withMinimum (keyed : clauses.IsKeyed) (count : Nat) :
    (clauses.withMinimum count).IsKeyed where
  keys occur := by
    rw [bucket_withMinimum]
    exact keyed.keys occur
  members occur := by
    rw [bucket_withMinimum]
    exact keyed.members occur

/-- Ask for at least one alternative. -/
def asked (clauses : Clauses α) : Clauses α :=
  clauses.withMinimum (max clauses.minimumShould 1)

theorem IsKeyed.isShaped_asked (keyed : clauses.IsKeyed) :
    clauses.asked.IsShaped :=
  (keyed.withMinimum _).isShaped fun _ => Nat.le_max_right _ _

theorem asked_eq_of_ne_zero (some : clauses.minimumShould ≠ 0) :
    clauses.asked = clauses := by
  rw [asked, Nat.max_eq_left (Nat.one_le_iff_ne_zero.mpr some)]
  rfl

theorem isDisjunctive_asked (clauses : Clauses α) :
    clauses.asked.isDisjunctive = clauses.isDisjunctive := by
  simp [isDisjunctive, asked, withMinimum]

end Minimum

section Absorbing

variable {clauses result : Clauses Node} {occur : Occur} {node : Node}
  {nodes : List Node}

/-- Where no alternatives are put, it does not matter how many are asked for. -/
theorem put_withMinimum
    (clauses : Clauses Node)
    (count : Nat)
    (key : MergeKey)
    (members : List Node)
    (differs : occur ≠ .should) :
    (clauses.withMinimum count).put occur key members =
      (clauses.put occur key members).withMinimum count := by
  cases occur
  case should => exact absurd rfl differs
  all_goals rfl

/-- Where no alternatives are absorbed, it does not matter how many are asked
for. -/
theorem absorb_withMinimum
    (clauses : Clauses Node)
    (operation : MergeOperation)
    (node : Node)
    (count : Nat)
    (differs : occur ≠ .should) :
    (clauses.withMinimum count).absorb occur operation node =
      (clauses.absorb occur operation node).map (·.withMinimum count) := by
  cases condition : node.isEmpty with
  | true =>
      unfold absorb
      rw [condition]
      rfl
  | false =>
      rw [absorb_eq_map_put _ _ _ condition, absorb_eq_map_put _ _ _ condition,
        bucket_withMinimum]
      cases grownGroup operation (clauses.bucket occur) node with
      | error error => rfl
      | ok members =>
          exact congrArg Except.ok
            (put_withMinimum clauses count _ members differs)

/-- Where no alternatives are absorbed one after the other, it does not matter
how many are asked for. -/
theorem absorbAll_withMinimum
    (clauses : Clauses Node)
    (operation : MergeOperation)
    (nodes : List Node)
    (count : Nat)
    (differs : occur ≠ .should) :
    (clauses.withMinimum count).absorbAll occur operation nodes =
      (clauses.absorbAll occur operation nodes).map (·.withMinimum count) := by
  induction nodes generalizing clauses with
  | nil => rfl
  | cons node rest hypothesis =>
      rw [absorbAll, absorbAll, List.foldlM_cons, List.foldlM_cons,
        absorb_withMinimum clauses operation node count differs]
      cases clauses.absorb occur operation node with
      | error error => rfl
      | ok next => exact hypothesis next

/-- Absorbing other clauses than alternatives leaves the number of those asked
for. -/
theorem minimumShould_of_absorbAll
    (differs : occur ≠ .should)
    (absorbed : clauses.absorbAll occur operation nodes = .ok result) :
    result.minimumShould = clauses.minimumShould := by
  have kept :=
    absorbAll_withMinimum clauses operation nodes clauses.minimumShould differs
  change clauses.absorbAll occur operation nodes = _ at kept
  rw [absorbed] at kept
  have same : result = result.withMinimum clauses.minimumShould :=
    Except.ok.inj kept
  rw [same]
  rfl

/-- Alternatives that are put make clauses ask for at least one. -/
theorem put_asked (clauses : Clauses Node) (key : MergeKey)
    (members : List Node) :
    clauses.asked.put .should key members =
      clauses.put .should key members := by
  have raised :
      (if max clauses.minimumShould 1 = 0 then 1
        else max clauses.minimumShould 1) =
      if clauses.minimumShould = 0 then 1 else clauses.minimumShould := by
    rw [if_neg (by omega)]
    split <;> omega
  simp only [put, mark, withBucket, asked, withMinimum, bucket,
    true_and, raised]

/-- An alternative that is absorbed makes clauses ask for at least one. -/
theorem absorb_asked
    (clauses : Clauses Node)
    (operation : MergeOperation)
    (condition : node.isEmpty = false) :
    clauses.asked.absorb .should operation node =
      clauses.absorb .should operation node := by
  rw [absorb_eq_map_put _ _ _ condition,
    absorb_eq_map_put _ _ _ condition, asked, bucket_withMinimum]
  exact congrArg (Except.map · _) (funext (put_asked clauses node.key))

/-- Alternatives that are absorbed make clauses ask for at least one. -/
theorem absorbAll_asked
    (clauses : Clauses Node)
    (operation : MergeOperation)
    (some : nodes ≠ [])
    (stated : ∀ node ∈ nodes, node.isEmpty = false) :
    clauses.asked.absorbAll .should operation nodes =
      clauses.absorbAll .should operation nodes := by
  cases nodes with
  | nil => exact absurd rfl some
  | cons node rest =>
      rw [absorbAll, absorbAll, List.foldlM_cons, List.foldlM_cons,
        absorb_asked clauses operation (stated node List.mem_cons_self)]

theorem bucket_ne_nil_of_absorb
    (condition : node.isEmpty = false)
    (absorbed : clauses.absorb occur operation node = .ok result) :
    result.bucket occur ≠ [] := by
  obtain ⟨grown, _, rfl⟩ := exists_put_of_absorb condition absorbed
  rw [bucket_put_self]
  exact Bucket.set_ne_nil _ _ _

/-- There are clauses of a kind after nodes that state a condition are absorbed
there, if there were any or there are nodes. -/
theorem bucket_ne_nil_of_absorbAll
    (stated : ∀ node ∈ nodes, node.isEmpty = false)
    (absorbed : clauses.absorbAll occur operation nodes = .ok result)
    (some : clauses.bucket occur ≠ [] ∨ nodes ≠ []) :
    result.bucket occur ≠ [] := by
  induction nodes generalizing clauses with
  | nil =>
      cases absorbed
      exact some.resolve_right fun absent => absent rfl
  | cons node rest hypothesis =>
      obtain ⟨condition, restStated⟩ := List.forall_mem_cons.mp stated
      obtain ⟨next, first, absorbed⟩ := exists_of_bind_eq_ok absorbed
      exact hypothesis restStated absorbed
        (.inl (bucket_ne_nil_of_absorb condition first))

end Absorbing

section Holding

variable {a b clauses : Clauses Node} {occur : Occur}

/-- To ask for an alternative restricts nothing where there are none or some are
asked for. -/
theorem holds_asked (heeded : clauses.should ≠ [] → clauses.minimumShould ≠ 0) :
    (Node.clauses clauses.asked).holds engine document =
      (Node.clauses clauses).holds engine document := by
  by_cases none : clauses.should = []
  · rw [Node.holds_clauses, Node.holds_clauses]
    simp only [verdicts, asked, nodes_withMinimum]
    rw [show clauses.nodes .should = [] by rw [nodes, bucket, none]; rfl]
    rfl
  · rw [asked_eq_of_ne_zero (heeded none)]

/-- To ask disjunctive clauses for an alternative restricts nothing where some
are asked for. -/
theorem holds_ite_asked
    (heeded : clauses.isDisjunctive = true → clauses.minimumShould ≠ 0) :
    (Node.clauses (if clauses.isDisjunctive then clauses.asked
      else clauses)).holds engine
        document = (Node.clauses clauses).holds engine document := by
  split
  · rename_i disjunctive
    exact holds_asked fun _ => heeded disjunctive
  · rfl

/-- A single clause stands for its node whichever operators the node was built
from, unless it is an alternative that is not asked for. -/
theorem holds_node_withOperators
    (operators : Operators)
    (asked : clauses.count = 1 → clauses.nodes .should ≠ [] →
      1 ≤ clauses.minimumShould) :
    { clauses with operators := operators }.node.holds engine document =
      (Node.clauses clauses).holds engine document := by
  rw [← holds_withOperators operators]
  exact holds_node_of_asked asked

/-- There are several clauses where there are alternatives and others. -/
theorem count_ne_one
    (alternatives : clauses.nodes .should ≠ [])
    (differs : occur ≠ .should)
    (others : clauses.nodes occur ≠ []) :
    clauses.count ≠ 1 := by
  have first := List.length_pos_iff.mpr alternatives
  have second := List.length_pos_iff.mpr others
  unfold count
  cases occur with
  | should => exact absurd rfl differs
  | _ => omega

/-- A node that states a condition has other clauses where it has no
alternatives. -/
theorem exists_bucket_ne_nil
    (nonempty : clauses.isEmpty = false)
    (none : clauses.should = []) :
    ∃ occur, occur ≠ .should ∧ clauses.bucket occur ≠ [] := by
  by_contra absent
  push Not at absent
  refine Bool.eq_false_iff.mp nonempty
    ((isEmpty_iff clauses).mpr fun occur => ?_)
  by_cases isShould : occur = .should
  · subst isShould
    exact none
  · exact absent occur isShould

/-- Clauses that have absorbed others and take over their alternatives are
several, or ask for one of the alternatives. -/
theorem minimumShould_takeAlternatives
    (keyed : clauses.IsKeyed)
    (otherKeyed : b.IsKeyed)
    (nonempty : b.isEmpty = false)
    (occupied : ∀ occur, occur ≠ .should → b.nodes occur ≠ [] →
      clauses.bucket occur ≠ [])
    (single : (clauses.takeAlternatives b).count = 1)
    (alternatives : (clauses.takeAlternatives b).nodes .should ≠ []) :
    1 ≤ (clauses.takeAlternatives b).minimumShould := by
  unfold takeAlternatives at single alternatives ⊢
  split at single
  · rename_i none
    rw [if_pos none] at alternatives
    obtain ⟨occur, differs, some⟩ :=
      exists_bucket_ne_nil nonempty (List.isEmpty_iff.mp none)
    have absorbed :=
      occupied occur differs (mt (otherKeyed.nodes_eq_nil_iff occur).mp some)
    exact absurd single
      (count_ne_one alternatives differs
        (mt (keyed.nodes_eq_nil_iff occur).mp absorbed))
  · rename_i some
    rw [if_neg some]
    exact Nat.le_max_right _ _

/-- Clauses that are taken over are made to ask for an alternative. -/
theorem addConjuncts_asked (a b : Clauses Node) :
    a.addConjuncts b.asked = a.addConjuncts b := by
  have taken : ∀ merged : Clauses Node,
      merged.takeAlternatives b.asked = merged.takeAlternatives b := by
    intro merged
    simp [takeAlternatives, asked, withMinimum]
  simp only [addConjuncts_eq, taken]
  rfl

theorem IsKeyed.isDisjunction_asked
    (keyed : clauses.IsKeyed)
    (disjunctive : clauses.isDisjunctive = true) :
    clauses.asked.IsDisjunction :=
  keyed.isShaped_asked.isDisjunction
    ((isDisjunctive_asked clauses).trans disjunctive)

theorem IsKeyed.disjuncts_ne_nil (keyed : clauses.IsKeyed) :
    clauses.disjuncts ≠ [] := by
  unfold disjuncts
  split
  · rename_i disjunctive
    exact (keyed.isDisjunction_asked disjunctive).nonempty
  · exact List.cons_ne_nil _ _

/-- One of the alternatives that clauses stand for holds where the clauses do,
if they are made to ask for one where they are disjunctive. -/
theorem holds_disjuncts_asked (keyed : clauses.IsKeyed) :
    clauses.disjuncts.any (Node.holds engine document) =
      (Node.clauses (if clauses.isDisjunctive then clauses.asked
        else clauses)).holds engine
        document := by
  unfold disjuncts
  split
  · rename_i disjunctive
    rw [(keyed.isDisjunction_asked disjunctive).holds, asked, nodes_withMinimum]
  · simp

end Holding

end Clauses

/-- A node states a condition, and its groups have different keys. -/
structure Node.IsOperand (discipline : Discipline) (node : Node) : Prop where
  keyed : node.WellKeyed (Leaf.Keeps discipline)
  stated : node.isEmpty = false

namespace Node

theorem IsOperand.clauses_isEmpty
    {content : Clauses Node}
    (operand : (Node.clauses content).IsOperand discipline) :
    content.isEmpty = false :=
  operand.stated

/-- The members of a node may be merged. -/
theorem WellKeyed.isOperand
    {content : Clauses Node}
    {occur : Occur}
    {node : Node}
    (keyed : (Node.clauses content).WellKeyed (Leaf.Keeps discipline))
    (isMember : node ∈ content.nodes occur) :
    node.IsOperand discipline :=
  ⟨keyed.of_mem isMember, keyed.isEmpty_of_mem isMember⟩

/-- The groups of a node have different keys whatever number of alternatives it
asks for. -/
theorem WellKeyed.withMinimum
    {law : Leaf → Prop}
    {content : Clauses Node}
    (keyed : (Node.clauses content).WellKeyed law)
    (count : Nat) :
    (Node.clauses (content.withMinimum count)).WellKeyed law := by
  refine .clauses (keyed.isKeyed.withMinimum count) ?_ ?_
  · intro occur member isMember
    rw [Clauses.nodes_withMinimum] at isMember
    exact keyed.isEmpty_of_mem isMember
  · intro occur member isMember
    rw [Clauses.nodes_withMinimum] at isMember
    exact keyed.of_mem isMember

/-- The alternatives that clauses stand for may be merged if the clauses may. -/
theorem IsOperand.of_mem_disjuncts
    {content : Clauses Node}
    {node : Node}
    (operand : (Node.clauses content).IsOperand discipline)
    (isDisjunct : node ∈ content.disjuncts) :
    node.IsOperand discipline := by
  unfold Clauses.disjuncts at isDisjunct
  split at isDisjunct
  · exact operand.keyed.isOperand isDisjunct
  · exact List.mem_singleton.mp isDisjunct ▸ operand

theorem IsOperand.asked
    {content : Clauses Node}
    (operand : (Node.clauses content).IsOperand discipline) :
    (Node.clauses content.asked).IsOperand discipline :=
  ⟨operand.keyed.withMinimum _, operand.stated⟩

/-- Merges of leaves that may be merged may be merged again and join the
verdicts. -/
theorem preserves_isOperand
    (operation : MergeOperation)
    (engine : Engine)
    (tight : discipline.tight = true)
    (separated : discipline.IsSeparated)
    (fits : document.Fits discipline.types) :
    Siblings.Preserves operation (IsOperand discipline)
      (Node.holds engine document) := by
  intro a b merged operandA operandB success
  have merges : operation.Merges discipline (.leaf a) (.leaf b) _ :=
    Leaf.merges_merge (operandA.keyed.wellFormed_leaf operandA.stated)
      (operandB.keyed.wellFormed_leaf operandB.stated) fun _ => tight
  rw [success] at merges
  have join :
      (Node.leaf merged).IsJoin discipline operation (.leaf a)
        (.leaf b) := merges
  exact ⟨⟨join.formed.wellKeyed, join.formed.isEmpty_eq_false⟩,
    join.holds separated engine document fits⟩

end Node

namespace Clauses

variable {a b clauses result : Clauses Node} {merged : Node} {nodes : List Node}
  {occur : Occur}

/-- What clauses become when they are restricted to where a verdict holds,
through clauses that are no alternatives. -/
structure Narrows (discipline : Discipline) (engine : Engine)
    (document : StoredDocument)
    (clauses : Clauses Node) (verdict : Bool) (result : Clauses Node) :
      Prop where
  keyed : (Node.clauses result).WellKeyed (Leaf.Keeps discipline)
  should : result.should = clauses.should
  kept : ∀ occur, clauses.bucket occur ≠ [] → result.bucket occur ≠ []
  holds : (Node.clauses result).holds engine document =
    ((Node.clauses clauses).holds engine document && verdict)

section Merging

variable (tight : discipline.tight = true)
  (separated : discipline.IsSeparated)
  (fits : document.Fits discipline.types)
include tight separated fits

section Restricting

variable (keyed : (Node.clauses clauses).WellKeyed (Leaf.Keeps discipline))
  (operands : ∀ node ∈ nodes, node.IsOperand discipline)
include keyed operands

/-- Nodes that are absorbed among clauses that are no alternatives join their
verdicts with those on the clauses, whatever number of alternatives is asked
for. The same clauses are well-shaped if they ask for an alternative, and then
absorb the same. -/
theorem joins_of_absorbAll
    (engine : Engine)
    (differs : occur ≠ .should)
    (absorbed : clauses.absorbAll occur operation nodes = .ok result) :
    (Node.clauses result).WellKeyed (Leaf.Keeps discipline) ∧
      (∀ other, other ≠ occur → result.bucket other = clauses.bucket other) ∧
      clauses.Joins engine document operation occur
        (operation.joinAll (nodes.map (Node.holds engine document)))
          result := by
  have same : clauses.asked.absorbAll occur operation nodes =
      .ok (result.withMinimum (max clauses.minimumShould 1)) := by
    rw [asked,
      absorbAll_withMinimum clauses operation nodes _ differs, absorbed]
    rfl
  have given : ∀ member ∈ clauses.asked.nodes occur,
      member.IsOperand discipline := by
    rw [asked, nodes_withMinimum]
    exact fun member => keyed.isOperand
  have absorbs := absorbs_of_absorbAll
    (Node.preserves_isOperand operation engine tight separated fits) given
    keyed.isKeyed.isShaped_asked operands
      (fun node isNode => (operands node isNode).stated) same
  have others : ∀ other, other ≠ occur → result.bucket other =
      clauses.bucket other := by
    intro other isOther
    have kept := absorbs.others other isOther
    rwa [asked, bucket_withMinimum, bucket_withMinimum] at kept
  have members : ∀ other, ∀ member ∈ result.nodes other,
      member.IsOperand discipline := by
    intro other member isMember
    by_cases isOccur : other = occur
    · subst isOccur
      refine absorbs.property member ?_
      rwa [nodes_withMinimum]
    · rw [Clauses.nodes, others other isOccur] at isMember
      exact keyed.isOperand isMember
  have joined := absorbs.joined
  rw [nodes_withMinimum, asked, nodes_withMinimum] at joined
  refine ⟨.clauses (absorbs.shaped.isKeyed.withMinimum result.minimumShould)
      (fun other member isMember => (members other member isMember).stated)
      fun other member isMember => (members other member isMember).keyed,
    others, joined, fun other isOther =>
      congrArg Bucket.nodes (others other isOther),
    fun _ => minimumShould_of_absorbAll differs absorbed⟩

/-- Absorbing nodes among clauses that are no alternatives restricts clauses to
where a verdict holds, if joining the verdicts does. -/
theorem narrows_of_absorbAll
    {verdict : Bool}
    (differs : occur ≠ .should)
    (absorbed : clauses.absorbAll occur operation nodes = .ok result)
    (restricts : clauses.Joins engine document operation occur
        (operation.joinAll (nodes.map (Node.holds engine document))) result →
      (Node.clauses result).holds engine document =
        ((Node.clauses clauses).holds engine document && verdict)) :
    clauses.Narrows discipline engine document verdict result := by
  obtain ⟨resultKeyed, others, joins⟩ :=
    joins_of_absorbAll tight separated fits keyed operands engine
      differs absorbed
  refine ⟨resultKeyed, others .should differs.symm, ?_, restricts joins⟩
  intro other some
  by_cases same : other = occur
  · subst same
    exact bucket_ne_nil_of_absorbAll
      (fun node isNode => (operands node isNode).stated) absorbed
      (.inl some)
  · rw [others other same]
    exact some

/-- Absorbing what must hold restricts clauses to it. -/
theorem narrows_of_conjuncts
    (engine : Engine)
    (conjunctive : occur = .must ∨ occur = .filter)
    (absorbed : clauses.absorbAll occur .inter nodes = .ok result) :
    clauses.Narrows discipline engine document
      (nodes.all (Node.holds engine document))
      result := by
  have differs : occur ≠ .should := by
    rintro rfl
    rcases conjunctive with isMust | isFilter
    · cases isMust
    · cases isFilter
  refine narrows_of_absorbAll tight separated fits keyed operands differs
    absorbed fun joins => ?_
  rw [joins.holds_conjunct conjunctive, MergeOperation.joinAll, List.all_map]
  rfl

/-- Absorbing what must not hold restricts clauses to where it does not. -/
theorem narrows_of_exclusions
    (engine : Engine)
    (absorbed : clauses.absorbAll .mustNot .union nodes = .ok result) :
    clauses.Narrows discipline engine document
      (nodes.all fun node => !node.holds engine document) result := by
  refine narrows_of_absorbAll tight separated fits keyed operands
    (by decide) absorbed
    fun joins => ?_
  rw [joins.holds_mustNot, MergeOperation.joinAll, ← all_not_eq, List.all_map]
  rfl

/-- Alternatives that are added to a disjunction join their verdicts with it.
One of all is asked for. -/
theorem holds_addDisjuncts
    {operators : Operators}
    (engine : Engine)
    (disjunctive : clauses.isDisjunctive = true)
    (some : nodes ≠ [])
    (success : clauses.addDisjuncts nodes operators = .ok merged) :
    merged.holds engine document =
      ((Node.clauses clauses.asked).holds engine document ||
        nodes.any (Node.holds engine document)) := by
  have stated : ∀ node ∈ nodes, node.isEmpty = false :=
    fun node isNode => (operands node isNode).stated
  have disjunction := keyed.isKeyed.isDisjunction_asked disjunctive
  unfold addDisjuncts at success
  rw [← absorbAll_asked clauses .union some stated] at success
  cases absorbed : clauses.asked.absorbAll .should .union nodes with
  | error error =>
      rw [absorbed] at success
      cases success
  | ok result =>
      rw [absorbed] at success
      cases success
      have absorbs := absorbs_of_absorbAll
        (Node.preserves_isOperand .union engine tight separated fits)
        (fun member => (keyed.withMinimum _).isOperand)
          keyed.isKeyed.isShaped_asked operands
        stated absorbed
      have grown : result.IsDisjunction := by
        refine ⟨fun occur differs => ?_, ?_, fun absent => ?_⟩
        · rw [Clauses.nodes, absorbs.others occur differs]
          exact disjunction.others occur differs
        · exact (absorbs.minimum (.inr (Nat.le_max_right _ _))).trans
            disjunction.minimum
        · exact bucket_ne_nil_of_absorbAll stated absorbed (.inr some)
            ((absorbs.shaped.nodes_eq_nil_iff .should).mp absent)
      have joined := absorbs.joined
      simp only [MergeOperation.joinAll, MergeOperation.join, List.any_map]
        at joined
      rw [holds_node (absorbs.shaped.withOperators _), holds_withOperators,
        grown.holds, disjunction.holds]
      exact joined

end Restricting

variable (operandA : (Node.clauses a).IsOperand discipline)
  (operandB : (Node.clauses b).IsOperand discipline)
include operandA operandB

/-- Absorbing the clauses of another node restricts to where these hold, and
there are clauses of every kind that the other node has, alternatives apart. -/
theorem narrows_absorbClauses
    (engine : Engine)
    (absorbed : a.absorbClauses b = .ok result) :
    a.Narrows discipline engine document
        ((b.nodes .must).all (Node.holds engine document) &&
          ((b.nodes .filter).all (Node.holds engine document) &&
            (b.nodes .mustNot).all fun node =>
              !node.holds engine document)) result ∧
      ∀ occur, occur ≠ .should → b.nodes occur ≠ [] →
        result.bucket occur ≠ [] := by
  obtain ⟨withMust, musts, absorbed⟩ := exists_of_bind_eq_ok absorbed
  obtain ⟨withFilter, filters, exclusions⟩ := exists_of_bind_eq_ok absorbed
  have members : ∀ occur, ∀ node ∈ b.nodes occur, node.IsOperand discipline :=
    fun occur node => operandB.keyed.isOperand
  have stated : ∀ occur, ∀ node ∈ b.nodes occur, node.isEmpty = false :=
    fun occur node => operandB.keyed.isEmpty_of_mem
  have first := narrows_of_conjuncts tight separated fits operandA.keyed
    (members .must) engine
    (.inl rfl) musts
  have second := narrows_of_conjuncts tight separated fits first.keyed
    (members .filter) engine
    (.inr rfl) filters
  have third := narrows_of_exclusions tight separated fits second.keyed
    (members .mustNot) engine
    exclusions
  constructor
  · refine ⟨third.keyed, third.should.trans (second.should.trans first.should),
      fun occur some =>
        third.kept occur (second.kept occur (first.kept occur some)), ?_⟩
    rw [third.holds, second.holds, first.holds, Bool.and_assoc, Bool.and_assoc]
  · intro occur differs some
    cases occur with
    | must =>
        exact third.kept _
          (second.kept _ (bucket_ne_nil_of_absorbAll (stated .must) musts
          (.inr some)))
    | filter =>
        exact third.kept _
          (bucket_ne_nil_of_absorbAll (stated .filter) filters (.inr some))
    | should => exact absurd rfl differs
    | mustNot =>
        exact bucket_ne_nil_of_absorbAll (stated .mustNot) exclusions
          (.inr some)

/-- Clauses that come together hold where both sides do. Alternatives that are
taken over are asked for. -/
theorem holds_addConjuncts
    (engine : Engine)
    (alone : a.should.isEmpty = true ∨ b.should.isEmpty = true)
    (success : a.addConjuncts b = .ok merged) :
    merged.holds engine document =
      ((Node.clauses a).holds engine document &&
        (Node.clauses b.asked).holds engine document) := by
  rw [← addConjuncts_asked, addConjuncts_eq] at success
  cases absorbed : a.absorbClauses b.asked with
  | error error =>
      rw [absorbed] at success
      cases success
  | ok result =>
      rw [absorbed] at success
      cases success
      obtain ⟨narrows, occupied⟩ :=
        narrows_absorbClauses tight separated fits operandA operandB.asked
          engine absorbed
      have aloneAsked : result.should.isEmpty = true ∨
          b.asked.should.isEmpty = true := by
        rw [narrows.should]
        exact alone
      have shaped := operandB.keyed.isKeyed.isShaped_asked
      refine (holds_node_withOperators _
        (minimumShould_takeAlternatives narrows.keyed.isKeyed
        shaped.isKeyed operandB.asked.clauses_isEmpty occupied)).trans ?_
      rw [holds_takeAlternatives aloneAsked shaped, narrows.holds,
        Bool.and_assoc, holds_eq_and b.asked]

/-- The intersection of clauses holds where both of them do. Where they come
together, the alternatives of the second are asked for. -/
theorem holds_inter_asked
    (engine : Engine)
    (success : a.inter b = .ok merged) :
    merged.holds engine document =
      ((Node.clauses a).holds engine document &&
        (Node.clauses (if a.should.isEmpty || b.should.isEmpty then b.asked
          else b)).holds engine
          document) := by
  unfold Clauses.inter at success
  rw [if_neg (Bool.eq_false_iff.mp operandA.clauses_isEmpty),
    if_neg (Bool.eq_false_iff.mp operandB.clauses_isEmpty)] at success
  split at success
  · rename_i alone
    rw [if_pos alone]
    exact holds_addConjuncts tight separated fits operandA operandB engine
      (Bool.or_eq_true_iff.mp alone) success
  · rename_i apart
    rw [if_neg apart]
    cases success
    exact Node.holds_both_of_stated operandA.stated operandB.stated

/-- The union of clauses holds where one of them does. The alternatives of
disjunctions are asked for. -/
theorem holds_union_asked
    (engine : Engine)
    (success : a.union b = .ok merged) :
    merged.holds engine document =
      ((Node.clauses (if a.isDisjunctive then a.asked else a)).holds engine
        document ||
        (Node.clauses (if b.isDisjunctive then b.asked else b)).holds
          engine document) := by
  unfold Clauses.union at success
  rw [if_neg (Bool.eq_false_iff.mp operandA.clauses_isEmpty),
    if_neg (Bool.eq_false_iff.mp operandB.clauses_isEmpty)] at success
  split at success
  · rename_i disjunctive
    rw [if_pos disjunctive, ← holds_disjuncts_asked operandB.keyed.isKeyed]
    exact holds_addDisjuncts tight separated fits operandA.keyed
      (fun node => operandB.of_mem_disjuncts) engine disjunctive
      operandB.keyed.isKeyed.disjuncts_ne_nil success
  · rename_i mixed
    rw [if_neg mixed]
    split at success
    · rename_i disjunctive
      rw [if_pos disjunctive,
        holds_addDisjuncts tight separated fits operandB.keyed
        (by simpa using operandA) engine disjunctive (List.cons_ne_nil _ _)
          success, Bool.or_comm]
      simp
    · rename_i mixedB
      rw [if_neg mixedB]
      cases success
      exact Node.holds_either_of_stated operandA.stated operandB.stated

end Merging

end Clauses

/-- The leaf is a term that has the type of its field and a value of its
kind. -/
def Leaf.IsTermOf (types : String → ValueType) : Leaf → Prop
  | .term content => content.Keeps types
  | _ => False

/-- The alternatives that a merge of clauses moves are asked for: in a union
those of disjunctions, and in an intersection those that the first side takes
over from the second. -/
def MergeOperation.Heeds : MergeOperation → Clauses Node → Clauses Node → Prop
  | .union, a, b => (a.isDisjunctive = true → a.minimumShould ≠ 0) ∧
      (b.isDisjunctive = true → b.minimumShould ≠ 0)
  | .inter, a, b => a.should = [] → b.should ≠ [] → b.minimumShould ≠ 0

namespace Node

/-- Nodes that are put together without merging, from leaves under a law and
from other such nodes that state a condition. Any number of alternatives may be
asked for at any time. -/
inductive IsAssembled (law : Leaf → Prop) : Node → Prop
  | leaf {content : Leaf} (lawful : law content) :
    IsAssembled law (.leaf content)
  | start {content : Clauses Node}
      (isStart : content ∈ [.empty, .conjunction, .disjunction, .negation]) :
      IsAssembled law (.clauses content)
  | add {content : Clauses Node} {node : Node} (occur : Occur)
      (clauses : IsAssembled law (.clauses content))
      (member : IsAssembled law node)
      (stated : node.isEmpty = false) :
        IsAssembled law (.clauses (content.add occur node))
  | withMinimum {content : Clauses Node} (count : Nat)
      (clauses : IsAssembled law (.clauses content)) :
      IsAssembled law (.clauses (content.withMinimum count))

/-- A node that is added to groups of different keys leaves them so. -/
theorem WellKeyed.add
    {law : Leaf → Prop}
    {content : Clauses Node}
    {node : Node}
    (keyed : (Node.clauses content).WellKeyed law)
    (occur : Occur)
    (nodeKeyed : node.WellKeyed law)
    (stated : node.isEmpty = false) :
    (Node.clauses (content.add occur node)).WellKeyed law := by
  have adds := Clauses.adds_add content occur stated
  have earlierOrNode : ∀ other, ∀ member ∈ (content.add occur node).nodes other,
      member ∈ content.nodes other ∨ member = node := by
    intro other member isMember
    by_cases same : other = occur
    · subst same
      rwa [adds.perm.mem_iff, List.mem_append, List.mem_singleton] at isMember
    · rw [adds.others other same] at isMember
      exact .inl isMember
  refine .clauses ?_ ?_ ?_
  · rw [Clauses.add_eq_put stated]
    exact keyed.isKeyed.put _ _ (by simp)
  · intro other member isMember
    rcases earlierOrNode other member isMember with earlier | rfl
    · exact keyed.isEmpty_of_mem earlier
    · exact stated
  · intro other member isMember
    rcases earlierOrNode other member isMember with earlier | rfl
    · exact keyed.of_mem earlier
    · exact nodeKeyed

/-- Nodes that are put together have groups of different keys. -/
theorem IsAssembled.wellKeyed
    {law : Leaf → Prop}
    {node : Node}
    (assembled : node.IsAssembled law) :
    node.WellKeyed law := by
  induction assembled with
  | leaf lawful => exact .leaf lawful
  | @start content isStart =>
      have empty : ∀ occur, content.bucket occur = [] := by
        intro occur
        simp only [List.mem_cons, List.not_mem_nil, or_false] at isStart
        rcases isStart with rfl | rfl | rfl | rfl <;> cases occur <;> rfl
      exact (Clauses.areWellFormed_of_empty empty).wellKeyed
  | add occur _ _ stated keyed memberKeyed =>
      exact keyed.add occur memberKeyed stated
  | withMinimum count _ keyed => exact keyed.withMinimum count

/-- Clauses that are put together with any numbers of alternatives asked for, in
any nesting, merge rightly, if the alternatives that the merge moves are asked
for. -/
theorem holds_merge_of_heeds
    {a b : Clauses Node}
    {merged : Node}
    (tight : discipline.tight = true)
    (separated : discipline.IsSeparated)
    (assembledA : (Node.clauses a).IsAssembled (Leaf.Keeps discipline))
    (assembledB : (Node.clauses b).IsAssembled (Leaf.Keeps discipline))
    (statedA : a.isEmpty = false)
    (statedB : b.isEmpty = false)
    (heeds : operation.Heeds a b)
    (fits : document.Fits discipline.types)
    (success : merge operation (.clauses a) (.clauses b) = .ok merged) :
    merged.holds engine document =
      operation.join ((Node.clauses a).holds engine document)
        ((Node.clauses b).holds engine document) := by
  have operandA : (Node.clauses a).IsOperand discipline :=
    ⟨assembledA.wellKeyed, statedA⟩
  have operandB : (Node.clauses b).IsOperand discipline :=
    ⟨assembledB.wellKeyed, statedB⟩
  by_cases alike : (Node.clauses a).same (.clauses b) = true
  · rw [← holds_eq_of_same_of_wellKeyed operandA.keyed operandB.keyed
      fits alike]
    cases operation with
    | union =>
        cases (if_pos alike).symm.trans success
        exact (Bool.or_self _).symm
    | inter =>
        cases (if_pos alike).symm.trans success
        exact (Bool.and_self _).symm
  · cases operation with
    | union =>
        rw [Clauses.holds_union_asked tight separated fits operandA
          operandB engine
          ((if_neg alike).symm.trans success), Clauses.holds_ite_asked heeds.1,
          Clauses.holds_ite_asked heeds.2]
        rfl
    | inter =>
        rw [Clauses.holds_inter_asked tight separated fits operandA
          operandB engine
          ((if_neg alike).symm.trans success)]
        split
        · rename_i alone
          rw [Bool.or_eq_true, List.isEmpty_iff, List.isEmpty_iff] at alone
          rw [Clauses.holds_asked fun some =>
            heeds (alone.resolve_right some) some]
          rfl
        · rfl

/-- Alternatives of a size that need not hold stay so beside conditions that
come in. -/
theorem holds_merge_of_heeds_sizeIs :
    (Node.clauses
      ((((Clauses.conjunction.add .must (.leaf (.sizeIs 3))).add .should
        (.leaf (.sizeIs 7))).withMinimum 0).add .mustNot (.leaf
          (.sizeIs 5)))).holds default
          (.ofSize 3) =
      ((Node.clauses
        (((Clauses.conjunction.add .must (.leaf (.sizeIs 3))).add .should
          (.leaf (.sizeIs 7))).withMinimum 0)).holds default (.ofSize 3) &&
        (Node.leaf (.sizeIs 5)).negated.holds default (.ofSize 3)) := by
  have isSize :
      ∀ size,
        (Node.leaf (.sizeIs size)).IsAssembled
          (Leaf.Keeps (.ofIntegers true)) :=
    fun size => .leaf (Leaf.wellFormed_sizeIs size true).lawful_leaf
  have conjunction :
      (Node.clauses .conjunction).IsAssembled (Leaf.Keeps (.ofIntegers true)) :=
    .start (by simp)
  have negation :
      (Node.clauses .negation).IsAssembled (Leaf.Keeps (.ofIntegers true)) :=
    .start (by simp)
  refine holds_merge_of_heeds rfl (Discipline.isSeparated_ofIntegers true)
    (.withMinimum 0
      (.add .should (.add .must conjunction (isSize 3) rfl) (isSize 7) rfl))
    (.add .mustNot negation (isSize 5) rfl) rfl rfl
    (show MergeOperation.Heeds .inter _ _ from fun _ absent =>
      absurd rfl absent)
    (StoredDocument.fits_ofSize 3 true) ?_
  with_unfolding_all rfl

/-- Without the condition the law fails for either operation, even for terms
alone. Alternatives of which none need hold are moved, and then one of them
must. -/
theorem not_exists_forall_holds_merge_assembled :
    ¬∃ operation : MergeOperation,
      ∀ (types : String → ValueType) (engine : Engine)
      (document : StoredDocument) (a b : Clauses Node) (merged : Node),
      (Node.clauses a).IsAssembled (Leaf.IsTermOf types) →
      (Node.clauses b).IsAssembled (Leaf.IsTermOf types) →
      a.isEmpty = false → b.isEmpty = false → document.Fits types →
      merge operation (.clauses a) (.clauses b) = .ok merged →
      merged.holds engine document =
        operation.join ((Node.clauses a).holds engine document)
          ((Node.clauses b).holds engine document) := by
  rintro ⟨operation, law⟩
  have isSize : ∀ size, (Node.leaf (.sizeIs size)).IsAssembled
      (Leaf.IsTermOf (Discipline.ofIntegers true).types) :=
        fun size => .leaf ⟨rfl, rfl⟩
  have three :
      (Node.clauses
        (Clauses.conjunction.add .must (.leaf (.sizeIs 3)))).IsAssembled
      (Leaf.IsTermOf (Discipline.ofIntegers true).types) :=
    .add .must (.start (by simp)) (isSize 3) rfl
  have maybeSeven : (Node.clauses ((Clauses.disjunction.add .should
      (.leaf (.sizeIs 7))).withMinimum 0)).IsAssembled
        (Leaf.IsTermOf (Discipline.ofIntegers true).types) :=
    .withMinimum 0 (.add .should (.start (by simp)) (isSize 7) rfl)
  cases operation with
  | union =>
      have united :
          merge .union
            (.clauses (Clauses.conjunction.add .must (.leaf (.sizeIs 3))))
          (.clauses
            ((Clauses.disjunction.add .should (.leaf (.sizeIs 7))).withMinimum
              0)) =
            .ok (.clauses
              { (Clauses.disjunction.add .should (.leaf (.sizeIs 7))).add
                .should
              (.clauses
                (Clauses.conjunction.add .must (.leaf (.sizeIs 3)))) with
                operators := ⟨true, true, false⟩ }) := by
        with_unfolding_all rfl
      have holds := law _ default (.ofSize 5) _ _ _ three maybeSeven rfl rfl
        (StoredDocument.fits_ofSize 5 true) united
      cases holds
  | inter =>
      have intersected : merge .inter
          (.clauses (Clauses.conjunction.add .must (.leaf (.sizeIs 3))))
          (.clauses
            ((Clauses.disjunction.add .should (.leaf (.sizeIs 7))).withMinimum
              0)) =
            .ok (.clauses
              ((Clauses.conjunction.add .must (.leaf (.sizeIs 3))).add .should
              (.leaf (.sizeIs 7)))) := by
        with_unfolding_all rfl
      have holds := law _ default (.ofSize 3) _ _ _ three maybeSeven rfl rfl
        (StoredDocument.fits_ofSize 3 true) intersected
      cases holds

end Node

end SearchQuery
