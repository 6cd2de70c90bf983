import SearchQuery.Proofs.RangeMerges

/-!
# The complement law

The complement of a well-formed tree exists and holds where the tree does not.
Ranges turn into the ranges beside them, which needs a value in their fields
unless these are arrays. Clauses turn around where one kind of them is all there
is, and are negated as a whole otherwise.
-/

namespace SearchQuery

/-- In a complete document a field for ranges that is no array has one value. -/
theorem StoredDocument.IsComplete.exists_values_eq
    {document : StoredDocument}
    {types : String → ValueType}
    {fields : String → Prop}
    {field : String}
    (complete : document.IsComplete types fields)
    (fits : document.Fits types)
    (isField : fields field)
    (single : (types field).isArray = false) :
    ∃ value, document.values field = [value] ∧
      value.isOf (types field).fieldType = true := by
  have some := List.length_pos_of_ne_nil (complete field isField single)
  obtain ⟨value, only⟩ := List.length_eq_one_iff.mp
    (Nat.le_antisymm (fits.single field single) some)
  exact ⟨value, only,
    fits.kinds field value (only ▸ List.mem_singleton_self value)⟩

/-- A node is the complement of another: it holds for the complete documents for
which the other does not. It is well-formed if presence may be asked for where
ranges may stand. -/
structure Node.IsComplement (node : Node) (discipline : Discipline)
    (original : Node) : Prop where
  formed : (∀ field, discipline.ordered field → discipline.probed field) →
    node.WellFormed (Leaf.Keeps discipline)
  holds : ∀ engine document, document.Fits discipline.types →
    document.IsComplete discipline.types discipline.ordered →
    node.holds engine document = !original.holds engine document

variable {discipline : Discipline}

namespace Node.IsComplement

theorem negated {node : Node}
    (formed : node.WellFormed (Leaf.Keeps discipline)) :
    node.negated.IsComplement discipline node where
  formed _ := wellFormed_negated formed
  holds _ _ _ _ := holds_negated formed

/-- A complement of a node is one of every node that holds alike. -/
theorem congr
    {node original other : Node}
    (isComplement : node.IsComplement discipline original)
    (alike : ∀ engine document, original.holds engine document =
      other.holds engine document) :
    node.IsComplement discipline other where
  formed := isComplement.formed
  holds engine document fits complete := by
    rw [← alike]
    exact isComplement.holds engine document fits complete

end Node.IsComplement

namespace Range

variable {range : Range} (keeps : range.Keeps discipline)
include keeps

/-- The range below a lower bound of a range keeps to the discipline. -/
theorem keeps_below {lower : LowerBound} (isLower : range.lower = some lower) :
    ({ range with lower := none, upper := some lower.complement } : Range).Keeps
      discipline where
  typed := keeps.typed
  ordered := keeps.ordered
  isOf :=
    { lower := by rintro _ ⟨⟩
      upper := by
        rintro _ ⟨rfl⟩
        exact keeps.isOf.lower lower isLower }
  nonempty _ := rfl

/-- The range above an upper bound of a range keeps to the discipline. -/
theorem keeps_above {upper : UpperBound} (isUpper : range.upper = some upper) :
    ({ range with lower := some upper.complement, upper := none } : Range).Keeps
      discipline where
  typed := keeps.typed
  ordered := keeps.ordered
  isOf :=
    { lower := by
        rintro _ ⟨rfl⟩
        exact keeps.isOf.upper upper isUpper
      upper := by rintro _ ⟨⟩ }
  nonempty _ := rfl

/-- The range below a lower bound includes what the bound does not admit. -/
theorem includes_below
    {lower : LowerBound}
    {value : Value}
    (isLower : range.lower = some lower)
    (isValue : value.isOf range.fieldType = true) :
    ({ range with lower := none, upper := some lower.complement } :
      Range).includes value =
      !lower.admits range.fieldType value :=
  lower.admits_complement (keeps.isOf.lower lower isLower) isValue

/-- The range above an upper bound includes what the bound does not admit. -/
theorem includes_above
    {upper : UpperBound}
    {value : Value}
    (isUpper : range.upper = some upper)
    (isValue : value.isOf range.fieldType = true) :
    ({ range with lower := some upper.complement, upper := none } :
      Range).includes value =
      !upper.admits range.fieldType value := by
  rw [← upper.admits_complement (keeps.isOf.upper upper isUpper) isValue]
  exact Bool.and_true _

/-- On a field that is no array, a node that asks for what a range does not
include is the complement of the range. -/
theorem isComplement_of_asks
    {test : Value → Bool}
    {node : Node}
    (single : range.type.isArray = false)
    (formed : node.WellFormed (Leaf.Keeps discipline))
    (asks : ∀ engine document, document.Fits discipline.types →
      node.holds engine document = document.hasValue range.field test)
    (outside : ∀ value, value.isOf range.fieldType = true →
      test value = !range.includes value) :
    node.IsComplement discipline (.leaf (.range range)) where
  formed _ := formed
  holds engine document fits complete := by
    rw [keeps.typed] at single
    obtain ⟨value, only, isValue⟩ :=
      complete.exists_values_eq fits keeps.ordered single
    rw [← keeps.typed] at isValue
    rw [asks engine document fits,
      (asks_range keeps).holds engine document fits, StoredDocument.hasValue,
      StoredDocument.hasValue, only]
    simpa using outside value isValue

/-- Where a document has a value, the absence of a value is the complement of a
range without bounds. -/
theorem isComplement_absence
    (single : range.type.isArray = false)
    (isLower : range.lower = none)
    (isUpper : range.upper = none) :
    (Node.leaf (.presence ⟨range.field, range.filter⟩)).negated.IsComplement
      discipline
      (.leaf (.range range)) where
  formed probes :=
    Node.wellFormed_negated (.leaf rfl (probes range.field keeps.ordered))
  holds engine document fits complete := by
    have presence :
        (Node.leaf (.presence ⟨range.field, range.filter⟩)).WellFormed
          fun _ => True :=
      .leaf rfl trivial
    rw [keeps.typed] at single
    obtain ⟨value, only, _⟩ :=
      complete.exists_values_eq fits keeps.ordered single
    rw [Node.holds_negated presence,
      (asks_range keeps).holds engine document fits, StoredDocument.hasValue,
      Node.holds_leaf, Leaf.holds, only]
    simp [includes, isLower, isUpper]

/-- A range has a complement. -/
theorem isComplement_complement :
    range.complement.IsComplement discipline (.leaf (.range range)) := by
  unfold Range.complement
  split
  · exact .negated (asks_range keeps).formed
  · rename_i single
    rw [Bool.not_eq_true] at single
    dsimp only
    split
    · rename_i lower upper isLower isUpper
      have below := asks_range (keeps_below keeps isLower)
      have above := asks_range (keeps_above keeps isUpper)
      apply isComplement_of_asks keeps single
        (Node.wellFormed_either below.formed above.formed)
      · intro engine document fits
        rw [Node.holds_either below.formed above.formed,
          below.holds engine document fits, above.holds engine document fits]
        exact (fits.hasValue_or fun value _ => rfl).symm
      · intro value isValue
        rw [includes_below keeps isLower isValue,
          includes_above keeps isUpper isValue, includes, isLower, isUpper,
          Option.all_some, Option.all_some, Bool.not_and]
    · rename_i lower isLower isUpper
      have below := asks_range (keeps_below keeps isLower)
      apply isComplement_of_asks keeps single below.formed below.holds
      intro value isValue
      rw [includes_below keeps isLower isValue, includes, isLower, isUpper,
        Option.all_some, Option.all_none, Bool.and_true]
    · rename_i upper isLower isUpper
      have above := asks_range (keeps_above keeps isUpper)
      apply isComplement_of_asks keeps single above.formed above.holds
      intro value isValue
      rw [includes_above keeps isUpper isValue, includes, isLower, isUpper,
        Option.all_some, Option.all_none, Bool.true_and]
    · rename_i isLower isUpper
      exact isComplement_absence keeps single isLower isUpper

end Range

/-- Some value of a field is among given ones where it is one of them. -/
theorem hasValue_meets
    (document : StoredDocument)
    (scope : Scope)
    (field : String)
    (values : List Value) :
    document.hasValue field (scope.meets values) =
      values.any fun value =>
        document.hasValue field (scope.meets [value]) := by
  rw [Bool.eq_iff_iff]
  simp only [StoredDocument.hasValue, List.any_eq_true, Scope.meets,
    List.any_cons, List.any_nil, Bool.or_false]
  constructor
  · rintro ⟨value, isValue, member, isMember, same⟩
    exact ⟨member, isMember, value, isValue, same⟩
  · rintro ⟨member, isMember, value, isValue, same⟩
    exact ⟨value, isValue, member, isMember, same⟩

namespace ValueSet

variable {set : ValueSet} (keeps : set.Keeps discipline.types)
include keeps

/-- A value set has a complement. -/
theorem isComplement_complement :
    set.complement.IsComplement discipline (.leaf (.valueSet set)) := by
  have terms : ∀ value ∈ set.values,
      (Leaf.term ⟨set.toScope, value⟩).Asks discipline set.field
        (set.meets [value]) := by
    intro value isValue
    have term : (⟨set.toScope, value⟩ : Term).Keeps discipline.types :=
      ⟨keeps.typed, keeps.arranged.kinds value isValue⟩
    exact Term.asks_term term
  have formed :
      ∀ node ∈ set.values.map fun value =>
        Node.leaf (.term ⟨set.toScope, value⟩),
      node.WellFormed (Leaf.Keeps discipline) := by
    intro node isNode
    obtain ⟨value, isValue, rfl⟩ := List.mem_map.mp isNode
    exact (terms value isValue).formed
  refine ⟨fun _ =>
    Node.wellFormed_negation (by simpa using keeps.nonempty) formed, ?_⟩
  intro engine document fits _
  rw [complement, Node.holds_negation formed,
    (asks_valueSet keeps).holds engine document fits, hasValue_meets,
    List.not_any_eq_all_not, List.all_map, Bool.eq_iff_iff, List.all_eq_true,
    List.all_eq_true]
  apply forall₂_congr
  intro value isValue
  rw [Function.comp_apply, (terms value isValue).holds engine document fits]

end ValueSet

/-- A leaf that states a condition has a complement. -/
theorem Leaf.exists_complement
    {leaf : Leaf}
    (formed : (Node.leaf leaf).WellFormed (Leaf.Keeps discipline)) :
    ∃ node, leaf.complement = .ok node ∧
      node.IsComplement discipline (.leaf leaf) := by
  have keeps := formed.lawful_leaf
  cases leaf
  case nothing => cases formed.condition_leaf
  case range content => exact ⟨_, rfl, content.isComplement_complement keeps⟩
  case valueSet content => exact ⟨_, rfl, content.isComplement_complement keeps⟩
  all_goals exact ⟨_, rfl, .negated formed⟩

namespace Clauses

variable {clauses : Clauses Node}

/-- Alternatives of which one must hold turn into clauses that must not hold. -/
theorem isComplement_negation
    (formed : clauses.AreWellFormed (Leaf.Keeps discipline))
    (disjunction : clauses.IsDisjunction) :
    (Node.clauses
      (Clauses.negation.addAll .mustNot (clauses.nodes .should))).IsComplement
      discipline (.clauses clauses) := by
  have members := formed.members .should
  refine ⟨fun _ => Node.wellFormed_negation disjunction.nonempty members, ?_⟩
  intro engine document _ _
  rw [Node.holds_negation members, disjunction.holds, List.not_any_eq_all_not]

/-- Where there are only clauses that must not hold, the clauses hold where none
of them does. -/
theorem holds_of_exclusions
    {engine : Engine}
    {document : StoredDocument}
    (others : ∀ occur, occur ≠ .mustNot → clauses.nodes occur = []) :
    (Node.clauses clauses).holds engine document =
      (clauses.nodes .mustNot).all fun node => !node.holds engine document := by
  rw [holds_eq_and, verdicts, others .must (by decide),
    others .filter (by decide), others .should (by decide)]
  exact Bool.and_true _

/-- A single clause that must not hold is the complement of the clauses. -/
theorem isComplement_exclusion
    {node : Node}
    (formed : clauses.AreWellFormed (Leaf.Keeps discipline))
    (others : ∀ occur, occur ≠ .mustNot → clauses.nodes occur = [])
    (single : clauses.nodes .mustNot = [node]) :
    node.IsComplement discipline (.clauses clauses) := by
  refine ⟨fun _ =>
    formed.members .mustNot node (single ▸ List.mem_singleton_self node), ?_⟩
  intro engine document _ _
  rw [holds_of_exclusions others, single]
  simp

/-- Clauses that must not hold turn into alternatives. -/
theorem isComplement_disjunction
    (formed : clauses.AreWellFormed (Leaf.Keeps discipline))
    (others : ∀ occur, occur ≠ .mustNot → clauses.nodes occur = [])
    (nonempty : clauses.nodes .mustNot ≠ []) :
    (Node.clauses
      (Clauses.disjunction.addAll .should
        (clauses.nodes .mustNot))).IsComplement
      discipline (.clauses clauses) := by
  have members := formed.members .mustNot
  refine ⟨fun _ => Node.wellFormed_disjunction nonempty members, ?_⟩
  intro engine document _ _
  rw [Node.holds_disjunction nonempty members, holds_of_exclusions others,
    ← List.not_any_eq_all_not, Bool.not_not]

/-- A clause that stands alone has a complement, which is its negation where it
has clauses of its own. -/
theorem exists_complement_sole {node : Node} :
    node.WellFormed (Leaf.Keeps discipline) →
      ∃ result,
        (match node with
          | .clauses content => .ok (.negated (.clauses content))
          | .leaf content => content.complement) = (.ok result :
              Except Error Node) ∧
        result.IsComplement discipline node := by
  intro formed
  cases node with
  | leaf content => exact Leaf.exists_complement formed
  | clauses content => exact ⟨_, rfl, .negated formed⟩

/-- Clauses have a complement. -/
theorem exists_complement
    (formed : (Node.clauses clauses).WellFormed (Leaf.Keeps discipline)) :
    ∃ node, clauses.complement = .ok node ∧
      node.IsComplement discipline (.clauses clauses) := by
  have clausesFormed := formed.areWellFormed
  have absent := clausesFormed.shaped.nodes_eq_nil_iff
  unfold Clauses.complement
  rw [if_neg (Bool.eq_false_iff.mp formed.clauses_isEmpty)]
  dsimp only
  split
  · split
    · obtain ⟨node, success, isComplement⟩ :=
        exists_complement_sole (clausesFormed.node formed.clauses_isEmpty)
      exact ⟨node, success,
        isComplement.congr fun _ _ => holds_node clausesFormed.shaped⟩
    · exact ⟨_, rfl, .negated formed⟩
  · split
    · have disjunctive : clauses.isDisjunctive = true := by
        simp_all [isDisjunctive]
      exact ⟨_, rfl, isComplement_negation clausesFormed
        (clausesFormed.shaped.isDisjunction disjunctive)⟩
    · exact ⟨_, rfl, .negated formed⟩
  · rename_i conjunctive alternatives exclusions
    simp only [Bool.or_eq_false_iff, Bool.not_eq_false', List.isEmpty_iff]
      at conjunctive alternatives
    have others : ∀ occur, occur ≠ .mustNot → clauses.nodes occur = [] := by
      intro occur differs
      rw [absent]
      cases occur
      · exact conjunctive.1
      · exact conjunctive.2
      · exact alternatives
      · exact absurd rfl differs
    split
    · rename_i node single
      exact ⟨_, rfl, isComplement_exclusion clausesFormed others single⟩
    · have some : clauses.nodes .mustNot ≠ [] := by
        intro none
        rw [show clauses.mustNot = [] from (absent .mustNot).mp none]
          at exclusions
        cases exclusions
      exact ⟨_, rfl, isComplement_disjunction clausesFormed others some⟩
  · exact ⟨_, rfl, .negated formed⟩

end Clauses

/-- A well-formed tree has a complement. -/
theorem Node.exists_complement
    {node : Node}
    (formed : node.WellFormed (Leaf.Keeps discipline)) :
    ∃ result, node.complement = .ok result ∧
      result.IsComplement discipline node := by
  cases node with
  | leaf content => exact Leaf.exists_complement formed
  | clauses content => exact content.exists_complement formed

end SearchQuery
