import SearchQuery.Proofs.LeafOutcomes

/-!
# Normal form

In a tree in normal form no node could be replaced by its only clause, one
alternative is enough wherever there are alternatives, and clauses stand only
where they could not have been taken in by the clauses around them.
-/

namespace SearchQuery

/-- A node may stand among clauses of a kind. Leaves may stand anywhere. Clauses
that must hold have alternatives, and clauses among alternatives or among what
must not hold have other clauses than alternatives. -/
def Node.MayStand : Occur → Node → Prop
  | _, .leaf _ => True
  | .must, .clauses content => content.nodes .should ≠ []
  | .filter, .clauses _ => False
  | .should, .clauses content =>
      ∃ occur, occur ≠ .should ∧ content.nodes occur ≠ []
  | .mustNot, .clauses content =>
      ∃ occur, occur ≠ .should ∧ content.nodes occur ≠ []

/-- A tree is in normal form. Every leaf states a condition and obeys a law. A
node has at least two clauses or is the negation of one, asks for exactly one
alternative if it has any, and has only clauses that may stand where they
stand. -/
inductive Node.IsNormal (law : Leaf → Prop) : Node → Prop
  | leaf {content : Leaf} (condition : content.isNothing = false)
    (lawful : law content) :
      IsNormal law (.leaf content)
  | clauses {content : Clauses Node} (shaped : content.IsShaped)
      (several : 2 ≤ content.count ∨
        content.count = 1 ∧ (content.nodes .mustNot).length = 1)
      (low : content.minimumShould ≤ 1)
      (placed : ∀ occur, ∀ node ∈ content.nodes occur, node.MayStand occur)
      (members : ∀ occur, ∀ node ∈ content.nodes occur, IsNormal law node) :
      IsNormal law (.clauses content)

/-- A node in normal form that may stand among clauses of a kind. -/
structure Node.Belongs (law : Leaf → Prop) (occur : Occur) (node : Node) :
    Prop where
  normal : node.IsNormal law
  mayStand : node.MayStand occur

/-- Clauses in normal form, of which there may be one or none. -/
structure Clauses.AreNormal (law : Leaf → Prop) (clauses : Clauses Node) :
    Prop where
  shaped : clauses.IsShaped
  low : clauses.minimumShould ≤ 1
  members : ∀ occur, ∀ node ∈ clauses.nodes occur, node.Belongs law occur

variable {law : Leaf → Prop}

namespace Clauses

variable {clauses result : Clauses Node} {nodes : List Node} {node : Node}
  {occur : Occur}

/-- There are as many clauses as were there and were added. -/
theorem Adds.count_eq (adds : clauses.Adds occur nodes result) :
    result.count = clauses.count + nodes.length := by
  have added :
      (result.nodes occur).length =
        (clauses.nodes occur).length + nodes.length := by
    rw [adds.perm.length_eq, List.length_append]
  have kept : ∀ other, other ≠ occur →
      (result.nodes other).length = (clauses.nodes other).length :=
    fun other differs => congrArg List.length (adds.others other differs)
  unfold count
  cases occur
  · rw [added, kept .filter (by decide), kept .should (by decide),
      kept .mustNot (by decide)]
    omega
  · rw [added, kept .must (by decide), kept .should (by decide),
      kept .mustNot (by decide)]
    omega
  · rw [added, kept .must (by decide), kept .filter (by decide),
      kept .mustNot (by decide)]
    omega
  · rw [added, kept .must (by decide), kept .filter (by decide),
      kept .should (by decide)]
    omega

theorem length_nodes_le_count (clauses : Clauses Node) (occur : Occur) :
    (clauses.nodes occur).length ≤ clauses.count := by
  unfold count
  cases occur <;> omega

/-- Well-shaped clauses are empty if there is none of them. -/
theorem IsShaped.isEmpty_of_count_eq_zero
    (shaped : clauses.IsShaped)
    (zero : clauses.count = 0) :
    clauses.isEmpty = true := by
  rw [isEmpty_iff]
  intro occur
  rw [← shaped.nodes_eq_nil_iff]
  have := clauses.length_nodes_le_count occur
  apply List.eq_nil_of_length_eq_zero
  omega

/-- There is a clause where there is a clause of some kind. -/
theorem isEmpty_eq_false_of_count_pos (shaped : clauses.IsShaped)
    (some : 0 < clauses.count) :
    clauses.isEmpty = false := by
  rw [Bool.eq_false_iff, ne_eq, isEmpty_iff]
  intro empty
  have none : ∀ occur, clauses.nodes occur = [] :=
    fun occur => (shaped.nodes_eq_nil_iff occur).mpr (empty occur)
  simp [count, none] at some

end Clauses

namespace Node.IsNormal

variable {node : Node} {clauses : Clauses Node}

theorem lawful_leaf {leaf : Leaf} (normal : (Node.leaf leaf).IsNormal law) :
    law leaf := by
  cases normal with
  | leaf condition lawful => exact lawful

theorem condition_leaf {leaf : Leaf} (normal : (Node.leaf leaf).IsNormal law) :
    leaf.isNothing = false := by
  cases normal with
  | leaf condition lawful => exact condition

theorem belongs_leaf {leaf : Leaf} (normal : (Node.leaf leaf).IsNormal law)
    (occur : Occur) :
    (Node.leaf leaf).Belongs law occur :=
  ⟨normal, by cases occur <;> trivial⟩

theorem areNormal (normal : (Node.clauses clauses).IsNormal law) :
    clauses.AreNormal law := by
  cases normal with
  | clauses shaped several low placed members =>
      exact ⟨shaped, low, fun occur node isMember =>
        ⟨members occur node isMember, placed occur node isMember⟩⟩

theorem several (normal : (Node.clauses clauses).IsNormal law) :
    2 ≤ clauses.count ∨ clauses.count = 1 ∧
      (clauses.nodes .mustNot).length = 1 := by
  cases normal with
  | clauses shaped several low placed members => exact several

theorem wellFormed (normal : node.IsNormal law) : node.WellFormed law := by
  induction normal with
  | leaf condition lawful => exact .leaf condition lawful
  | clauses shaped several low placed members hypothesis =>
      refine .clauses shaped ?_ hypothesis
      exact Clauses.isEmpty_eq_false_of_count_pos shaped (by omega)

theorem clauses_isEmpty (normal : (Node.clauses clauses).IsNormal law) :
    clauses.isEmpty = false :=
  normal.wellFormed.clauses_isEmpty

/-- A tree in normal form under two laws is so under both together. -/
theorem and_wellFormed
    {other : Leaf → Prop}
    (normal : node.IsNormal law)
    (formed : node.WellFormed other) :
    node.IsNormal fun leaf => law leaf ∧ other leaf := by
  induction normal with
  | leaf condition lawful => exact .leaf condition ⟨lawful, formed.lawful_leaf⟩
  | clauses shaped several low placed members hypothesis =>
      exact .clauses shaped several low placed fun occur node isMember =>
        hypothesis occur node isMember
          (formed.areWellFormed.members occur node isMember)

/-- A tree in normal form under a law is so under a weaker one. -/
theorem mono
    {weaker : Leaf → Prop}
    (normal : node.IsNormal law)
    (implied : ∀ leaf, law leaf → weaker leaf) :
    node.IsNormal weaker := by
  induction normal with
  | leaf condition lawful => exact .leaf condition (implied _ lawful)
  | clauses shaped several low placed members hypothesis =>
      exact .clauses shaped several low placed hypothesis

end Node.IsNormal

namespace Clauses

variable {clauses result : Clauses Node} {nodes : List Node} {member : Node}
  {occur : Occur}

namespace AreNormal

theorem areWellFormed (normal : clauses.AreNormal law) :
    clauses.AreWellFormed law where
  shaped := normal.shaped
  members occur node isMember :=
    (normal.members occur node isMember).normal.wellFormed

/-- Clauses in normal form that are not too few make a tree in normal form. -/
theorem isNormal
    (normal : clauses.AreNormal law)
    (several : 2 ≤ clauses.count ∨
      clauses.count = 1 ∧ (clauses.nodes .mustNot).length = 1) :
    (Node.clauses clauses).IsNormal law :=
  .clauses normal.shaped several normal.low
    (fun occur node isMember => (normal.members occur node isMember).mayStand)
    (fun occur node isMember => (normal.members occur node isMember).normal)

/-- Appending a node that may stand there keeps clauses in normal form. -/
theorem add
    (normal : clauses.AreNormal law)
    (belongs : member.Belongs law occur) :
    (clauses.add occur member).AreNormal law := by
  have condition := belongs.normal.wellFormed.isEmpty_eq_false
  have adds := adds_add clauses occur condition
  refine ⟨(normal.areWellFormed.add occur belongs.normal.wellFormed).shaped, ?_,
    ?_⟩
  · have low := normal.low
    rw [add_eq_put condition, minimumShould_put]
    split <;> omega
  · intro other node isMember
    by_cases same : other = occur
    · subst same
      rw [adds.perm.mem_iff, List.mem_append, List.mem_singleton] at isMember
      rcases isMember with earlier | rfl
      · exact normal.members other node earlier
      · exact belongs
    · rw [adds.others other same] at isMember
      exact normal.members other node isMember

/-- Appending nodes in turn keeps clauses in normal form. -/
theorem addAll
    (normal : clauses.AreNormal law)
    (belong : ∀ node ∈ nodes, node.Belongs law occur) :
    (clauses.addAll occur nodes).AreNormal law := by
  induction nodes generalizing clauses with
  | nil => exact normal
  | cons node rest hypothesis =>
      obtain ⟨belongs, restBelong⟩ := List.forall_mem_cons.mp belong
      exact hypothesis (normal.add belongs) restBelong

/-- A single clause that stands for its node is in normal form, and other nodes
have clauses enough. -/
theorem node
    (normal : clauses.AreNormal law)
    (nonempty : clauses.isEmpty = false) :
    clauses.node.IsNormal law := by
  rw [Clauses.node]
  split
  · rename_i collapses
    obtain ⟨single, equation⟩ :=
      exists_nodes_eq_singleton collapses.1 collapses.2.1
    have isMember :
        single ∈ clauses.nodes .must ++ clauses.nodes .filter ++
          clauses.nodes .should :=
      equation ▸ List.mem_singleton_self single
    rw [equation, List.headD_cons]
    rw [List.mem_append, List.mem_append] at isMember
    rcases isMember with (isMember | isMember) | isMember
    · exact (normal.members _ _ isMember).normal
    · exact (normal.members _ _ isMember).normal
    · exact (normal.members _ _ isMember).normal
  · rename_i stays
    apply normal.isNormal
    have some : clauses.count ≠ 0 := fun zero =>
      Bool.eq_false_iff.mp nonempty
        (normal.shaped.isEmpty_of_count_eq_zero zero)
    by_cases single : clauses.count = 1
    · have excluded : clauses.nodes .mustNot ≠ [] := by
        intro none
        refine stays ⟨single, ?_, normal.low⟩
        rw [List.isEmpty_iff]
        exact (normal.shaped.nodes_eq_nil_iff .mustNot).mp none
      have atLeast := List.length_pos_of_ne_nil excluded
      have atMost := clauses.length_nodes_le_count .mustNot
      exact .inr ⟨single, by omega⟩
    · exact .inl (by omega)

end AreNormal

/-- No clauses are in normal form if they ask for at most one alternative. -/
theorem areNormal_of_empty
    (empty : ∀ occur, clauses.bucket occur = [])
    (low : clauses.minimumShould ≤ 1) :
    clauses.AreNormal law where
  shaped := isShaped_of_empty empty
  low := low
  members occur node isMember := by
    rw [nodes, empty occur] at isMember
    cases isMember

end Clauses

namespace Node

variable {left right node : Node} {nodes : List Node}

/-- A disjunction of at least two nodes that may be alternatives is in normal
form. -/
theorem isNormal_disjunction
    (several : 2 ≤ nodes.length)
    (belong : ∀ node ∈ nodes, node.Belongs law .should) :
    (Node.clauses (Clauses.disjunction.addAll .should nodes)).IsNormal law := by
  have start : (Clauses.disjunction (α := Node)).AreNormal law :=
    Clauses.areNormal_of_empty (fun occur => by cases occur <;> rfl)
      (Nat.le_refl 1)
  obtain ⟨_, adds⟩ := Clauses.adds_disjunction fun node isNode =>
    (belong node isNode).normal.wellFormed
  refine (start.addAll belong).isNormal (.inl ?_)
  rw [adds.count_eq]
  exact Nat.le_add_left_of_le several

/-- A negation of some nodes that may be excluded is in normal form. -/
theorem isNormal_negation
    (nonempty : nodes ≠ [])
    (belong : ∀ node ∈ nodes, node.Belongs law .mustNot) :
    (Node.clauses (Clauses.negation.addAll .mustNot nodes)).IsNormal law := by
  have start : (Clauses.negation (α := Node)).AreNormal law :=
    Clauses.areNormal_of_empty (fun occur => by cases occur <;> rfl)
      (Nat.zero_le 1)
  obtain ⟨_, adds⟩ := Clauses.adds_negation fun node isNode =>
    (belong node isNode).normal.wellFormed
  have excluded :
      ((Clauses.negation.addAll .mustNot nodes).nodes .mustNot).length =
      nodes.length := adds.perm.length_eq
  have counted : (Clauses.negation.addAll .mustNot nodes).count =
      0 + nodes.length :=
    adds.count_eq
  have some := List.length_pos_of_ne_nil nonempty
  exact (start.addAll belong).isNormal (by omega)

theorem isNormal_negated (belongs : node.Belongs law .mustNot) :
    node.negated.IsNormal law :=
  isNormal_negation (List.cons_ne_nil node [])
    (List.forall_mem_singleton.mpr belongs)

theorem isNormal_either
    (leftBelongs : left.Belongs law .should)
    (rightBelongs : right.Belongs law .should) :
    (either left right).IsNormal law := by
  have belong : ∀ node ∈ [left, right], node.Belongs law .should := by
    simp [leftBelongs, rightBelongs]
  exact isNormal_disjunction (Nat.le_refl [left, right].length) belong

/-- Two nodes that both must hold are in normal form if they may stand there. -/
theorem isNormal_both
    (leftBelongs : left.Belongs law (if left.isFilter then .filter else .must))
    (rightBelongs : right.Belongs law (if right.isFilter then .filter
      else .must)) :
    (both left right).IsNormal law := by
  have start : (Clauses.conjunction (α := Node)).AreNormal law :=
    Clauses.areNormal_of_empty (fun occur => by cases occur <;> rfl)
      (Nat.zero_le 1)
  have first := Clauses.adds_add Clauses.conjunction
    (if left.isFilter then .filter else .must)
    leftBelongs.normal.wellFormed.isEmpty_eq_false
  have second := Clauses.adds_add (Clauses.conjunction.addConjunct left)
    (if right.isFilter then .filter else .must)
    rightBelongs.normal.wellFormed.isEmpty_eq_false
  refine ((start.add leftBelongs).add rightBelongs).isNormal (.inl ?_)
  exact Nat.le_of_eq
    (second.count_eq.trans (congrArg (· + 1) first.count_eq)).symm

/-- Two leaves in normal form stand side by side in normal form. -/
theorem isNormal_apart_leaf
    (operation : MergeOperation)
    {a b : Leaf}
    (normalA : (Node.leaf a).IsNormal law)
    (normalB : (Node.leaf b).IsNormal law) :
    (operation.apart (.leaf a) (.leaf b)).IsNormal law := by
  cases operation with
  | union =>
      exact isNormal_either (normalA.belongs_leaf .should)
        (normalB.belongs_leaf .should)
  | inter =>
      exact isNormal_both (normalA.belongs_leaf _) (normalB.belongs_leaf _)

end Node
end SearchQuery
