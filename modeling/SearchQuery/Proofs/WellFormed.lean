import SearchQuery.Proofs.Buckets
import SearchQuery.Proofs.Matching

/-!
# Well-formed trees

A well-formed tree has a condition in every leaf, clauses in every node, and
clauses of the shape in which they are built up. The trees that the algebra puts
together from such trees are well-formed and hold where they should.
-/

namespace SearchQuery

/-- Every leaf states a condition and obeys a law, and every node has
well-shaped clauses. -/
inductive Node.WellFormed (law : Leaf → Prop) : Node → Prop
  | leaf {content : Leaf} (condition : content.isNothing = false)
    (lawful : law content) :
      WellFormed law (.leaf content)
  | clauses {content : Clauses Node} (shaped : content.IsShaped)
      (nonempty : content.isEmpty = false)
      (members : ∀ occur, ∀ node ∈ content.nodes occur, WellFormed law node) :
      WellFormed law (.clauses content)

/-- Every leaf obeys a law, and every node, which may have no clauses, has
members that state a condition in groups of different keys. Any number of
alternatives may be asked for. -/
inductive Node.WellKeyed (law : Leaf → Prop) : Node → Prop
  | leaf {content : Leaf} (lawful : law content) : WellKeyed law (.leaf content)
  | clauses {content : Clauses Node} (keyed : content.IsKeyed)
      (stated : ∀ occur, ∀ node ∈ content.nodes occur, node.isEmpty = false)
      (members : ∀ occur, ∀ node ∈ content.nodes occur, WellKeyed law node) :
      WellKeyed law (.clauses content)

/-- Well-shaped clauses, maybe none, with well-formed members. -/
structure Clauses.AreWellFormed (law : Leaf → Prop) (clauses : Clauses Node) :
    Prop where
  shaped : clauses.IsShaped
  members : ∀ occur, ∀ node ∈ clauses.nodes occur, node.WellFormed law

variable {law : Leaf → Prop}

namespace Node.WellFormed

theorem lawful_leaf {content : Leaf}
    (formed : (Node.leaf content).WellFormed law) :
    law content := by
  cases formed with
  | leaf condition lawful => exact lawful

theorem condition_leaf {content : Leaf}
    (formed : (Node.leaf content).WellFormed law) :
    content.isNothing = false := by
  cases formed with
  | leaf condition lawful => exact condition

theorem isEmpty_eq_false {node : Node} (formed : node.WellFormed law) :
    node.isEmpty = false := by
  cases formed with
  | leaf condition lawful => exact condition
  | clauses shaped nonempty members => exact nonempty

theorem clauses_isEmpty {content : Clauses Node}
    (formed : (Node.clauses content).WellFormed law) :
    content.isEmpty = false :=
  formed.isEmpty_eq_false

theorem areWellFormed {content : Clauses Node}
    (formed : (Node.clauses content).WellFormed law) :
    content.AreWellFormed law := by
  cases formed with
  | clauses shaped nonempty members => exact ⟨shaped, members⟩

/-- A tree that is well-formed under a law is so under a weaker one. -/
theorem mono
    {weaker : Leaf → Prop}
    {node : Node}
    (formed : node.WellFormed law)
    (implied : ∀ content, law content → weaker content) :
    node.WellFormed weaker := by
  induction formed with
  | leaf condition lawful => exact .leaf condition (implied _ lawful)
  | clauses shaped nonempty members hypothesis =>
      exact .clauses shaped nonempty hypothesis

/-- A well-formed tree has groups of different keys. -/
theorem wellKeyed {node : Node} (formed : node.WellFormed law) :
    node.WellKeyed law := by
  induction formed with
  | leaf condition lawful => exact .leaf lawful
  | clauses shaped nonempty members hypothesis =>
      exact .clauses shaped.isKeyed
        (fun occur node isMember =>
          (members occur node isMember).isEmpty_eq_false) hypothesis

end Node.WellFormed

/-- Well-formed clauses, maybe none, have groups of different keys. -/
theorem Clauses.AreWellFormed.wellKeyed
    {clauses : Clauses Node}
    (formed : clauses.AreWellFormed law) :
    (Node.clauses clauses).WellKeyed law :=
  .clauses formed.shaped.isKeyed
    (fun occur node isMember =>
      (formed.members occur node isMember).isEmpty_eq_false)
    fun occur node isMember => (formed.members occur node isMember).wellKeyed

namespace Node.WellKeyed

/-- A leaf that states a condition and obeys the law is well-formed. -/
theorem wellFormed_leaf
    {content : Leaf}
    (keyed : (Node.leaf content).WellKeyed law)
    (condition : content.isNothing = false) :
    (Node.leaf content).WellFormed law := by
  cases keyed with
  | leaf lawful => exact .leaf condition lawful

theorem isKeyed {content : Clauses Node}
    (keyed : (Node.clauses content).WellKeyed law) :
    content.IsKeyed := by
  cases keyed with
  | clauses keyed stated members => exact keyed

/-- The members of a node state a condition. -/
theorem isEmpty_of_mem
    {content : Clauses Node}
    {occur : Occur}
    {node : Node}
    (keyed : (Node.clauses content).WellKeyed law)
    (isMember : node ∈ content.nodes occur) :
    node.isEmpty = false := by
  cases keyed with
  | clauses keyed stated members => exact stated occur node isMember

/-- The members of a node have groups of different keys themselves. -/
theorem of_mem
    {content : Clauses Node}
    {occur : Occur}
    {node : Node}
    (keyed : (Node.clauses content).WellKeyed law)
    (isMember : node ∈ content.nodes occur) :
    node.WellKeyed law := by
  cases keyed with
  | clauses keyed stated members => exact members occur node isMember

end Node.WellKeyed

namespace Clauses

variable {clauses : Clauses Node} {occur : Occur} {node : Node}

/-- Clauses with members are well-formed as a node. -/
theorem AreWellFormed.node_of_nodes_ne_nil
    (formed : clauses.AreWellFormed law)
    (occur : Occur)
    (nonempty : clauses.nodes occur ≠ []) :
    (Node.clauses clauses).WellFormed law := by
  refine .clauses formed.shaped ?_ formed.members
  rw [Bool.eq_false_iff, ne_eq, isEmpty_iff]
  intro empty
  exact nonempty ((formed.shaped.nodes_eq_nil_iff occur).mpr (empty occur))

/-- What clauses become when nodes are added to one kind of them. -/
structure Adds (clauses : Clauses Node) (occur : Occur) (nodes : List Node)
    (result : Clauses Node) : Prop where
  perm : (result.nodes occur).Perm (clauses.nodes occur ++ nodes)
  others : ∀ other, other ≠ occur → result.nodes other = clauses.nodes other
  minimum : occur ≠ .should ∨ 1 ≤ clauses.minimumShould →
    result.minimumShould = clauses.minimumShould

/-- Appending a node that is not nothing puts it into the group of its key. -/
theorem add_eq_put_of_ne (occur : Occur) (stated : node ≠ .leaf .nothing) :
    clauses.add occur node =
      clauses.put occur node.key
        ((Bucket.find? node.key (clauses.bucket occur)).getD [] ++ [node]) := by
  cases node with
  | clauses content => rfl
  | leaf content =>
      cases content with
      | nothing => exact absurd rfl stated
      | _ => rfl

theorem add_eq_put (condition : node.isEmpty = false) :
    clauses.add occur node =
      clauses.put occur node.key
        ((Bucket.find? node.key (clauses.bucket occur)).getD [] ++ [node]) :=
  add_eq_put_of_ne occur fun isNothing => by
    rw [isNothing] at condition
    cases condition

/-- Appending a well-formed node adds it. -/
theorem adds_add
    (clauses : Clauses Node)
    (occur : Occur)
    (condition : node.isEmpty = false) :
    clauses.Adds occur [node] (clauses.add occur node) := by
  rw [add_eq_put condition]
  refine ⟨?_, fun other differs => nodes_put_of_ne _ _ _ _ differs,
    minimumShould_put_of_raised _ _ _ _⟩
  obtain ⟨rest, before, after⟩ := exists_rest_put clauses occur node.key
    ((Bucket.find? node.key (clauses.bucket occur)).getD [] ++ [node])
  refine after.trans ?_
  refine .trans ?_ (before.symm.append_right [node])
  rw [List.append_assoc, List.append_assoc]
  exact List.perm_append_comm.append_left _

/-- Appending a well-formed node keeps clauses well-formed. -/
theorem AreWellFormed.add
    (formed : clauses.AreWellFormed law)
    (occur : Occur)
    (nodeFormed : node.WellFormed law) :
    (clauses.add occur node).AreWellFormed law := by
  have adds := adds_add clauses occur nodeFormed.isEmpty_eq_false
  constructor
  · rw [add_eq_put nodeFormed.isEmpty_eq_false]
    exact formed.shaped.put _ _ (by simp)
  · intro other member isMember
    by_cases same : other = occur
    · subst same
      rw [adds.perm.mem_iff, List.mem_append, List.mem_singleton] at isMember
      rcases isMember with earlier | rfl
      · exact formed.members other member earlier
      · exact nodeFormed
    · rw [adds.others other same] at isMember
      exact formed.members other member isMember

/-- Appending nodes in turn adds them. -/
theorem adds_addAll
    {nodes : List Node}
    (clauses : Clauses Node)
    (occur : Occur)
    (conditions : ∀ node ∈ nodes, node.isEmpty = false) :
    clauses.Adds occur nodes (clauses.addAll occur nodes) := by
  induction nodes generalizing clauses with
  | nil =>
      refine ⟨?_, fun other differs => rfl, fun raised => rfl⟩
      rw [List.append_nil]
      exact .refl _
  | cons node rest hypothesis =>
      obtain ⟨condition, conditionsRest⟩ := List.forall_mem_cons.mp conditions
      have adds := adds_add clauses occur condition
      have addsRest := hypothesis (clauses.add occur node) conditionsRest
      refine ⟨?_, ?_, ?_⟩
      · refine addsRest.perm.trans ?_
        refine (adds.perm.append_right rest).trans ?_
        rw [List.append_assoc]
        exact .refl _
      · intro other differs
        exact (addsRest.others other differs).trans (adds.others other differs)
      · intro raised
        have kept := adds.minimum raised
        exact (addsRest.minimum (kept.symm ▸ raised)).trans kept

/-- Appending well-formed nodes in turn adds them and keeps clauses
well-formed. -/
theorem AreWellFormed.addAll
    {nodes : List Node}
    (formed : clauses.AreWellFormed law)
    (occur : Occur)
    (nodesFormed : ∀ node ∈ nodes, node.WellFormed law) :
    (clauses.addAll occur nodes).AreWellFormed law ∧
      clauses.Adds occur nodes (clauses.addAll occur nodes) := by
  refine ⟨?_, adds_addAll clauses occur fun node isNode =>
    (nodesFormed node isNode).isEmpty_eq_false⟩
  induction nodes generalizing clauses with
  | nil => exact formed
  | cons node rest hypothesis =>
      obtain ⟨nodeFormed, restFormed⟩ := List.forall_mem_cons.mp nodesFormed
      exact hypothesis (formed.add occur nodeFormed) restFormed

theorem areWellFormed_of_empty (empty : ∀ occur, clauses.bucket occur = []) :
    clauses.AreWellFormed law where
  shaped := isShaped_of_empty empty
  members occur node isMember := by
    rw [nodes, empty occur] at isMember
    cases isMember

theorem meetsMinimum_one {verdicts : List Bool} (nonempty : verdicts ≠ []) :
    meetsMinimum 1 verdicts = verdicts.any id := by
  have isThere : verdicts.isEmpty = false :=
    List.isEmpty_eq_false_iff.mpr nonempty
  rw [meetsMinimum, isThere, Bool.false_or, Bool.eq_iff_iff, decide_eq_true_iff,
    Nat.one_le_iff_ne_zero, ne_eq, List.countP_eq_zero, List.any_eq_true]
  simp

theorem meetsMinimum_perm
    (minimum : Nat)
    {front back : List Bool}
    (permutes : front.Perm back) :
    meetsMinimum minimum front = meetsMinimum minimum back := by
  rw [meetsMinimum, meetsMinimum, permutes.countP_eq, permutes.isEmpty_eq]

end Clauses

section Building

variable {engine : Engine} {document : StoredDocument} {nodes : List Node}

/-- The verdicts on clauses that were added to none are those on the nodes. -/
theorem Clauses.Adds.verdicts_perm
    (engine : Engine)
    (document : StoredDocument)
    {clauses result : Clauses Node}
    {occur : Occur}
    (adds : clauses.Adds occur nodes result)
    (empty : clauses.nodes occur = []) :
    (result.verdicts engine document occur).Perm
      (nodes.map (Node.holds engine document)) := by
  have permutes := adds.perm
  rw [empty, List.nil_append] at permutes
  exact permutes.map _

/-- The verdicts on clauses of other kinds than were added to. -/
theorem Clauses.Adds.verdicts_eq_nil
    {clauses result : Clauses Node}
    {occur : Occur}
    (other : Occur)
    (adds : clauses.Adds occur nodes result)
    (differs : other ≠ occur)
    (empty : clauses.nodes other = []) :
    result.verdicts engine document other = [] := by
  rw [Clauses.verdicts, adds.others other differs, empty]
  rfl

theorem Clauses.adds_disjunction
    (formed : ∀ node ∈ nodes, node.WellFormed law) :
    (Clauses.disjunction.addAll .should nodes).AreWellFormed law ∧
      Clauses.disjunction.Adds .should nodes
        (Clauses.disjunction.addAll .should nodes) :=
  (areWellFormed_of_empty fun occur => by cases occur <;> rfl).addAll
    .should formed

theorem Clauses.adds_negation (formed : ∀ node ∈ nodes, node.WellFormed law) :
    (Clauses.negation.addAll .mustNot nodes).AreWellFormed law ∧
      Clauses.negation.Adds .mustNot nodes
        (Clauses.negation.addAll .mustNot nodes) :=
  (areWellFormed_of_empty fun occur => by cases occur <;> rfl).addAll
    .mustNot formed

/-- A disjunction of some well-formed nodes is well-formed. -/
theorem Node.wellFormed_disjunction
    (nonempty : nodes ≠ [])
    (formed : ∀ node ∈ nodes, node.WellFormed law) :
    (Node.clauses
      (Clauses.disjunction.addAll .should nodes)).WellFormed law := by
  obtain ⟨resultFormed, adds⟩ := Clauses.adds_disjunction formed
  apply resultFormed.node_of_nodes_ne_nil .should
  intro absent
  exact nonempty (List.perm_nil.mp (adds.perm.symm.trans (.of_eq absent)))

/-- A disjunction of some nodes that state a condition holds where one of them
does. -/
theorem Node.holds_disjunction_of_stated
    (nonempty : nodes ≠ [])
    (stated : ∀ node ∈ nodes, node.isEmpty = false) :
    (Node.clauses (Clauses.disjunction.addAll .should nodes)).holds engine
      document =
      nodes.any (Node.holds engine document) := by
  have adds := Clauses.adds_addAll .disjunction .should stated
  have alternatives := adds.verdicts_perm engine document rfl
  rw [holds_clauses, adds.verdicts_eq_nil .must (by decide) rfl,
    adds.verdicts_eq_nil .filter (by decide) rfl,
    adds.verdicts_eq_nil .mustNot (by decide) rfl,
    adds.minimum (.inr (Nat.le_refl 1)),
    Clauses.meetsMinimum_perm _ alternatives]
  change Clauses.meetsMinimum 1 _ = _
  rw [Clauses.meetsMinimum_one (by simpa using nonempty), List.any_map]
  rfl

/-- A disjunction of some well-formed nodes holds where one of them does. -/
theorem Node.holds_disjunction
    (nonempty : nodes ≠ [])
    (formed : ∀ node ∈ nodes, node.WellFormed law) :
    (Node.clauses (Clauses.disjunction.addAll .should nodes)).holds engine
      document =
      nodes.any (Node.holds engine document) :=
  holds_disjunction_of_stated nonempty fun node isNode =>
    (formed node isNode).isEmpty_eq_false

/-- A negation of some well-formed nodes is well-formed. -/
theorem Node.wellFormed_negation
    (nonempty : nodes ≠ [])
    (formed : ∀ node ∈ nodes, node.WellFormed law) :
    (Node.clauses (Clauses.negation.addAll .mustNot nodes)).WellFormed law := by
  obtain ⟨resultFormed, adds⟩ := Clauses.adds_negation formed
  apply resultFormed.node_of_nodes_ne_nil .mustNot
  intro absent
  exact nonempty (List.perm_nil.mp (adds.perm.symm.trans (.of_eq absent)))

/-- A negation holds where none of its members does. -/
theorem Node.holds_negation (formed : ∀ node ∈ nodes, node.WellFormed law) :
    (Node.clauses (Clauses.negation.addAll .mustNot nodes)).holds engine
      document =
      nodes.all fun node => !node.holds engine document := by
  obtain ⟨_, adds⟩ := Clauses.adds_negation formed
  have members := adds.verdicts_perm engine document rfl
  rw [holds_clauses, adds.verdicts_eq_nil .must (by decide) rfl,
    adds.verdicts_eq_nil .filter (by decide) rfl,
    adds.verdicts_eq_nil .should (by decide) rfl, members.all_eq, List.all_map,
    List.all_nil, Bool.true_and, Bool.true_and]
  exact Bool.and_true _

theorem Node.wellFormed_either
    {left right : Node}
    (leftFormed : left.WellFormed law)
    (rightFormed : right.WellFormed law) :
    (Node.either left right).WellFormed law := by
  refine wellFormed_disjunction (List.cons_ne_nil left [right]) ?_
  simp [leftFormed, rightFormed]

/-- Of two nodes side by side that state a condition one must hold. -/
theorem Node.holds_either_of_stated
    {left right : Node}
    (leftStated : left.isEmpty = false)
    (rightStated : right.isEmpty = false) :
    (Node.either left right).holds engine document =
      (left.holds engine document || right.holds engine document) := by
  have stated : ∀ node ∈ [left, right], node.isEmpty = false := by
    simp [leftStated, rightStated]
  refine (holds_disjunction_of_stated (List.cons_ne_nil left [right])
    stated).trans ?_
  simp

/-- Of two well-formed nodes side by side one must hold. -/
theorem Node.holds_either
    {left right : Node}
    (leftFormed : left.WellFormed law)
    (rightFormed : right.WellFormed law) :
    (Node.either left right).holds engine document =
      (left.holds engine document || right.holds engine document) :=
  holds_either_of_stated leftFormed.isEmpty_eq_false
    rightFormed.isEmpty_eq_false

theorem Node.wellFormed_negated {node : Node} (formed : node.WellFormed law) :
    node.negated.WellFormed law := by
  refine wellFormed_negation (List.cons_ne_nil node []) ?_
  simp [formed]

theorem Node.holds_negated {node : Node} (formed : node.WellFormed law) :
    node.negated.holds engine document = !node.holds engine document := by
  have formed : ∀ member ∈ [node], member.WellFormed law := by simp [formed]
  refine (holds_negation formed).trans ?_
  simp

end Building

/-- What clauses become when a verdict is joined to those of one kind. -/
structure Clauses.Joins (engine : Engine) (document : StoredDocument)
    (operation : MergeOperation) (occur : Occur) (clauses : Clauses Node)
    (verdict : Bool)
    (result : Clauses Node) : Prop where
  joined : operation.joinAll (result.verdicts engine document occur) =
    operation.join
      (operation.joinAll (clauses.verdicts engine document occur)) verdict
  others : ∀ other, other ≠ occur → result.nodes other = clauses.nodes other
  minimum : occur ≠ .should ∨ 1 ≤ clauses.minimumShould →
    result.minimumShould = clauses.minimumShould

section Joining

variable {engine : Engine} {document : StoredDocument}
  {clauses result : Clauses Node}
  {occur : Occur} {node : Node} {verdict : Bool}

/-- An added node joins its verdict, whatever the operation. -/
theorem Clauses.Adds.joins
    (adds : clauses.Adds occur [node] result)
    (engine : Engine)
    (document : StoredDocument)
    (operation : MergeOperation) :
    clauses.Joins engine document operation occur
      (node.holds engine document) result := by
  refine ⟨?_, adds.others, adds.minimum⟩
  rw [Clauses.verdicts, operation.joinAll_perm (adds.perm.map _),
    List.map_append, operation.joinAll_append]
  cases operation <;> simp [MergeOperation.joinAll, Clauses.verdicts]

/-- A verdict that is joined to what must hold restricts the clauses to it. -/
theorem Clauses.Joins.holds_conjunct
    (joins : clauses.Joins engine document .inter occur verdict result)
    (conjunctive : occur = .must ∨ occur = .filter) :
    (Node.clauses result).holds engine document =
      ((Node.clauses clauses).holds engine document && verdict) := by
  have joined := joins.joined
  have kept : ∀ other, other ≠ occur →
      result.verdicts engine document other =
        clauses.verdicts engine document other :=
    fun other differs => congrArg (List.map _) (joins.others other differs)
  simp only [MergeOperation.joinAll, MergeOperation.join] at joined
  rcases conjunctive with rfl | rfl
  · rw [Node.holds_clauses, Node.holds_clauses, joined,
      kept .filter (by decide), kept .should (by decide),
      kept .mustNot (by decide), joins.minimum (.inl (by decide))]
    ac_rfl
  · rw [Node.holds_clauses, Node.holds_clauses, joined, kept .must (by decide),
      kept .should (by decide), kept .mustNot (by decide),
      joins.minimum (.inl (by decide))]
    ac_rfl

theorem all_not_eq (verdicts : List Bool) :
    verdicts.all not = !verdicts.any id := by
  rw [List.all_eq_not_any_not]
  simp only [Bool.not_not]
  rfl

/-- A verdict that is joined to what must not hold excludes it from the
clauses. -/
theorem Clauses.Joins.holds_mustNot
    (joins : clauses.Joins engine document .union .mustNot verdict result) :
    (Node.clauses result).holds engine document =
      ((Node.clauses clauses).holds engine document && !verdict) := by
  have joined := joins.joined
  have kept : ∀ other, other ≠ .mustNot →
      result.verdicts engine document other =
        clauses.verdicts engine document other :=
    fun other differs => congrArg (List.map _) (joins.others other differs)
  simp only [MergeOperation.joinAll, MergeOperation.join] at joined
  rw [Node.holds_clauses, Node.holds_clauses, all_not_eq, joined, Bool.not_or,
    ← all_not_eq, kept .must (by decide), kept .filter (by decide),
    kept .should (by decide), joins.minimum (.inl (by decide))]
  ac_rfl

/-- A clause that must hold, with or without scoring, restricts the clauses to
it. -/
theorem Clauses.holds_addConjunct
    (engine : Engine)
    (document : StoredDocument)
    (clauses : Clauses Node)
    (condition : node.isEmpty = false) :
    (Node.clauses (clauses.addConjunct node)).holds engine document =
      ((Node.clauses clauses).holds engine document &&
        node.holds engine document) := by
  have adds :=
    adds_add clauses (if node.isFilter then .filter else .must) condition
  refine (adds.joins engine document .inter).holds_conjunct ?_
  split
  · exact .inr rfl
  · exact .inl rfl

/-- Two well-formed nodes that both must hold are well-formed. -/
theorem Node.wellFormed_both
    {left right : Node}
    (leftFormed : left.WellFormed law)
    (rightFormed : right.WellFormed law) :
    (Node.both left right).WellFormed law := by
  have start : (Clauses.conjunction (α := Node)).AreWellFormed law :=
    Clauses.areWellFormed_of_empty fun occur => by cases occur <;> rfl
  have formed := (start.add (if left.isFilter then .filter else .must)
    leftFormed).add
    (if right.isFilter then .filter else .must) rightFormed
  refine .clauses formed.shaped ?_ formed.members
  rw [Clauses.addConjunct, Clauses.add_eq_put rightFormed.isEmpty_eq_false]
  exact Clauses.isEmpty_put _ _ _ _

/-- Of two nodes side by side that state a condition both must hold. -/
theorem Node.holds_both_of_stated
    {left right : Node}
    (leftStated : left.isEmpty = false)
    (rightStated : right.isEmpty = false) :
    (Node.both left right).holds engine document =
      (left.holds engine document && right.holds engine document) := by
  have start :
      (Node.clauses Clauses.conjunction).holds engine document = true := by
    rw [holds_clauses]
    rfl
  rw [Node.both, Clauses.holds_addConjunct _ _ _ rightStated,
    Clauses.holds_addConjunct _ _ _ leftStated, start, Bool.true_and]

theorem Node.holds_both
    {left right : Node}
    (leftFormed : left.WellFormed law)
    (rightFormed : right.WellFormed law) :
    (Node.both left right).holds engine document =
      (left.holds engine document && right.holds engine document) :=
  holds_both_of_stated leftFormed.isEmpty_eq_false rightFormed.isEmpty_eq_false

end Joining

section Collapsing

variable {engine : Engine} {document : StoredDocument} {clauses : Clauses Node}

theorem Clauses.nodes_mustNot_eq_nil
    (noneExcluded : clauses.mustNot.isEmpty = true) :
    clauses.nodes .mustNot = [] := by
  rw [nodes, show clauses.bucket .mustNot = []
    from List.isEmpty_iff.mp noneExcluded]
  rfl

/-- Clauses that stand for themselves have one member, which must hold or is the
only alternative. -/
theorem Clauses.exists_nodes_eq_singleton
    (single : clauses.count = 1)
    (noneExcluded : clauses.mustNot.isEmpty = true) :
    ∃ node, clauses.nodes .must ++ clauses.nodes .filter ++
      clauses.nodes .should = [node] := by
  rw [count, nodes_mustNot_eq_nil noneExcluded, List.length_nil, Nat.add_zero]
    at single
  apply List.length_eq_one_iff.mp
  rw [List.length_append, List.length_append]
  exact single

/-- The node that clauses make is the only one of them, or has them all. -/
theorem Clauses.node_eq_clauses_or (clauses : Clauses Node) :
    clauses.node = .clauses clauses ∨ clauses.count = 1 ∧ ∃ occur, occur ≠
      .mustNot ∧
      clauses.nodes occur = [clauses.node] ∧
        ∀ other, other ≠ occur → clauses.nodes other = [] := by
  rw [Clauses.node]
  split
  · rename_i collapses
    obtain ⟨node, equation⟩ :=
      exists_nodes_eq_singleton collapses.1 collapses.2.1
    have noneExcluded := nodes_mustNot_eq_nil collapses.2.1
    refine .inr ⟨collapses.1, ?_⟩
    rw [equation, List.headD_cons]
    simp only [List.append_eq_singleton_iff, List.append_eq_nil_iff] at equation
    obtain ⟨⟨must, filter⟩, should⟩ | ⟨⟨must, filter⟩ | ⟨must, filter⟩,
        should⟩ := equation
    · refine ⟨.should, by decide, should, fun other differs => ?_⟩
      cases other <;> first | assumption | exact absurd rfl differs
    · refine ⟨.filter, by decide, filter, fun other differs => ?_⟩
      cases other <;> first | assumption | exact absurd rfl differs
    · refine ⟨.must, by decide, must, fun other differs => ?_⟩
      cases other <;> first | assumption | exact absurd rfl differs
  · exact .inl rfl

theorem Clauses.node_eq_clauses_or_exists_mem (clauses : Clauses Node) :
    clauses.node = .clauses clauses ∨ ∃ occur, clauses.node ∈
      clauses.nodes occur := by
  refine clauses.node_eq_clauses_or.imp_right ?_
  rintro ⟨-, occur, -, single, -⟩
  exact ⟨occur, single ▸ List.mem_singleton_self _⟩

/-- Of at most one alternative, which is needed if it is there, all must
hold. -/
theorem Clauses.meetsMinimum_of_length_le_one
    (minimum : Nat)
    (verdicts : List Bool)
    (short : verdicts.length ≤ 1)
    (needed : verdicts ≠ [] → minimum = 1) :
    meetsMinimum minimum verdicts = verdicts.all id := by
  match verdicts with
  | [] => rfl
  | [verdict] =>
      rw [needed (List.cons_ne_nil _ _),
        meetsMinimum_one (List.cons_ne_nil _ _)]
      simp

theorem Clauses.AreWellFormed.node
    (formed : clauses.AreWellFormed law)
    (nonempty : clauses.isEmpty = false) :
    clauses.node.WellFormed law := by
  rcases clauses.node_eq_clauses_or_exists_mem with stays | ⟨occur, isMember⟩
  · exact stays ▸ .clauses formed.shaped nonempty formed.members
  · exact formed.members occur _ isMember

/-- A single clause that stands for its node holds where the node does, unless
it is an alternative that is not asked for. -/
theorem Clauses.holds_node_of_asked
    (asked : clauses.count = 1 → clauses.nodes .should ≠ [] →
      1 ≤ clauses.minimumShould) :
    clauses.node.holds engine document =
      (Node.clauses clauses).holds engine document := by
  rw [Clauses.node]
  split
  · rename_i collapses
    obtain ⟨single, noneExcluded, low⟩ := collapses
    obtain ⟨node, equation⟩ := exists_nodes_eq_singleton single noneExcluded
    have lengths := congrArg List.length equation
    simp only [List.length_append, List.length_singleton] at lengths
    have alternatives := meetsMinimum_of_length_le_one clauses.minimumShould
      (clauses.verdicts engine document .should)
      (by rw [verdicts, List.length_map]; omega)
      (fun isThere => by
        have raised :=
          asked single fun absent =>
            isThere (by rw [verdicts, absent, List.map_nil])
        omega)
    have verdicts := congrArg (fun nodes =>
      (nodes.map (Node.holds engine document)).all id)
      equation
    simp only [List.map_append, List.all_append, List.map_cons, List.map_nil,
      List.all_cons, List.all_nil, Bool.and_true] at verdicts
    rw [equation, List.headD_cons, Node.holds_clauses, alternatives,
      Clauses.verdicts, Clauses.verdicts, Clauses.verdicts, Clauses.verdicts,
      nodes_mustNot_eq_nil noneExcluded, List.map_nil, List.all_nil,
      Bool.and_true]
    exact verdicts.symm
  · rfl

theorem Clauses.holds_node (shaped : clauses.IsShaped) :
    clauses.node.holds engine document =
      (Node.clauses clauses).holds engine document :=
  holds_node_of_asked fun _ some =>
    shaped.minimum fun absent =>
      some ((shaped.nodes_eq_nil_iff .should).mpr absent)

end Collapsing

section Disjunctions

variable {engine : Engine} {document : StoredDocument} {clauses : Clauses Node}

/-- Clauses that are alternatives only, of which one must hold. -/
structure Clauses.IsDisjunction (clauses : Clauses Node) : Prop where
  others : ∀ occur, occur ≠ .should → clauses.nodes occur = []
  minimum : clauses.minimumShould = 1
  nonempty : clauses.nodes .should ≠ []

/-- Well-shaped clauses that count as disjunctive are a disjunction. -/
theorem Clauses.IsShaped.isDisjunction
    (shaped : clauses.IsShaped)
    (disjunctive : clauses.isDisjunctive = true) :
    clauses.IsDisjunction := by
  simp only [isDisjunctive, Bool.and_eq_true, Bool.not_eq_true',
    decide_eq_true_eq, List.isEmpty_iff, List.isEmpty_eq_false_iff]
    at disjunctive
  obtain ⟨⟨⟨⟨some, must⟩, filter⟩, mustNot⟩, low⟩ := disjunctive
  refine ⟨?_, Nat.le_antisymm low (shaped.minimum some), ?_⟩
  · intro occur differs
    rw [shaped.nodes_eq_nil_iff]
    cases occur
    · exact must
    · exact filter
    · exact absurd rfl differs
    · exact mustNot
  · exact mt (shaped.nodes_eq_nil_iff .should).mp some

/-- A disjunction holds where one of its alternatives does. -/
theorem Clauses.IsDisjunction.holds (disjunction : clauses.IsDisjunction) :
    (Node.clauses clauses).holds engine document =
      (clauses.nodes .should).any (Node.holds engine document) := by
  have nonempty : clauses.verdicts engine document .should ≠ [] :=
    mt List.map_eq_nil_iff.mp disjunction.nonempty
  rw [Node.holds_clauses, disjunction.minimum, meetsMinimum_one nonempty]
  simp only [verdicts, disjunction.others .must (by decide),
    disjunction.others .filter (by decide),
    disjunction.others .mustNot (by decide), List.map_nil, List.all_nil,
    Bool.true_and, List.any_map]
  rfl

end Disjunctions

end SearchQuery
