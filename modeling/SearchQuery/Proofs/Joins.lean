import SearchQuery.Proofs.SameConditions

/-!
# Right merges

A merge of two nodes is right if it gives a well-formed node that holds where
the operation joins the verdicts on them, or if it fails. It fails for an
exclusion only when intersection meets nodes that hold for no document together.
-/

namespace SearchQuery

/-- The error says that no document meets both sides. -/
def Error.isExclusion : Error → Bool
  | .valueConflict .. | .emptyIntersection .. => true
  | _ => false

/-- A leaf is well-formed and asks whether some value of a field passes a
test. -/
structure Leaf.Asks (discipline : Discipline) (field : String)
    (test : Value → Bool)
    (leaf : Leaf) : Prop where
  formed : (Node.leaf leaf).WellFormed (Leaf.Keeps discipline)
  holds : ∀ engine document, document.Fits discipline.types →
    (Node.leaf leaf).holds engine document = document.hasValue field test

/-- A node is well-formed and holds where the verdicts on two nodes are joined,
provided that the discipline is separated. -/
structure Node.IsJoin (node : Node) (discipline : Discipline)
    (operation : MergeOperation)
    (a b : Node) : Prop where
  formed : node.WellFormed (Leaf.Keeps discipline)
  holds : discipline.IsSeparated → ∀ engine document,
    document.Fits discipline.types →
    node.holds engine document =
      operation.join (a.holds engine document) (b.holds engine document)

/-- The outcome of a merge is right: a node is a join, and an error is an
exclusion only under intersection of nodes that exclude each other, provided
that the discipline is separated. -/
def MergeOperation.Merges (discipline : Discipline) (operation : MergeOperation)
    (a b : Node) :
    Except Error Node → Prop
  | .ok node => node.IsJoin discipline operation a b
  | .error error => error.isExclusion = true → operation = .inter ∧
      (discipline.IsSeparated → ∀ engine document,
        document.Fits discipline.types →
        (a.holds engine document && b.holds engine document) = false)

variable {discipline : Discipline} {operation : MergeOperation}

namespace Node.IsJoin

variable {a b : Node}

theorem symm {node : Node} (join : node.IsJoin discipline operation a b) :
    node.IsJoin discipline operation b a where
  formed := join.formed
  holds separated engine document fits := by
    rw [operation.join_comm]
    exact join.holds separated engine document fits

theorem either
    (formedA : a.WellFormed (Leaf.Keeps discipline))
    (formedB : b.WellFormed (Leaf.Keeps discipline)) :
    (Node.either a b).IsJoin discipline .union a b where
  formed := wellFormed_either formedA formedB
  holds _ _ _ _ := holds_either formedA formedB

theorem both
    (formedA : a.WellFormed (Leaf.Keeps discipline))
    (formedB : b.WellFormed (Leaf.Keeps discipline)) :
    (Node.both a b).IsJoin discipline .inter a b where
  formed := wellFormed_both formedA formedB
  holds _ _ _ _ := holds_both formedA formedB

/-- One of two nodes that hold alike is their join. -/
theorem of_holds_eq
    (formed : a.WellFormed (Leaf.Keeps discipline))
    (alike : ∀ engine document, document.Fits discipline.types →
      a.holds engine document = b.holds engine document) :
    a.IsJoin discipline operation a b where
  formed := formed
  holds _ engine document fits := by
    rw [← alike engine document fits]
    cases operation
    · exact (Bool.or_self _).symm
    · exact (Bool.and_self _).symm

end Node.IsJoin

namespace MergeOperation

variable {a b : Node}

/-- A right merge is right from either side. -/
theorem Merges.symm
    {outcome : Except Error Node}
    (merges : operation.Merges discipline a b outcome) :
    operation.Merges discipline b a outcome := by
  cases outcome with
  | ok node => exact Node.IsJoin.symm merges
  | error error =>
      intro exclusion
      obtain ⟨isInter, excludes⟩ := merges exclusion
      refine ⟨isInter, fun separated engine document fits => ?_⟩
      rw [Bool.and_comm]
      exact excludes separated engine document fits

/-- A merge that only asks for equal weights is right if its result is, given
them. -/
theorem Merges.agreed
    {field : String}
    {left right : Binary64}
    {node : Node}
    (join : left.equals right = true → node.IsJoin discipline operation a b) :
    operation.Merges discipline a b
      (SearchQuery.agreed field left right node) := by
  unfold SearchQuery.agreed agreeOnBoost
  split
  · rename_i equal
    exact join equal
  · intro exclusion
    cases exclusion

end MergeOperation

namespace Leaf.Asks

variable {field : String} {p q r : Value → Bool} {a b result : Leaf}

/-- A leaf that asks for what either of two asks for is their union. -/
theorem isJoin_union
    (asks : result.Asks discipline field r)
    (asksA : a.Asks discipline field p)
    (asksB : b.Asks discipline field q)
    (agree : ∀ value, value.isOf (discipline.types field).fieldType = true →
      r value = (p value || q value)) :
    (Node.leaf result).IsJoin discipline .union (.leaf a) (.leaf b) where
  formed := asks.formed
  holds _ engine document fits := by
    rw [asks.holds engine document fits, asksA.holds engine document fits,
      asksB.holds engine document fits]
    exact fits.hasValue_or agree

/-- Two leaves of one field that together ask for what either of two others asks
for are their union. -/
theorem isJoin_either
    {first second : Leaf}
    {s : Value → Bool}
    (asksFirst : first.Asks discipline field r)
    (asksSecond : second.Asks discipline field s)
    (asksA : a.Asks discipline field p)
    (asksB : b.Asks discipline field q)
    (agree : ∀ value, value.isOf (discipline.types field).fieldType = true →
      (r value || s value) = (p value || q value)) :
    (Node.either (.leaf first) (.leaf second)).IsJoin discipline .union
      (.leaf a) (.leaf b) where
  formed := Node.wellFormed_either asksFirst.formed asksSecond.formed
  holds _ engine document fits := by
    rw [Node.holds_either asksFirst.formed asksSecond.formed,
      asksFirst.holds engine document fits,
      asksSecond.holds engine document fits, asksA.holds engine document fits,
      asksB.holds engine document fits, ← fits.hasValue_or fun value _ => rfl]
    exact fits.hasValue_or agree

/-- On a field that is no array, a leaf that asks for what both of two ask for
is their intersection. -/
theorem isJoin_inter
    (asks : result.Asks discipline field r)
    (asksA : a.Asks discipline field p)
    (asksB : b.Asks discipline field q)
    (single : (discipline.types field).isArray = false)
    (agree : ∀ value, value.isOf (discipline.types field).fieldType = true →
      r value = (p value && q value)) :
    (Node.leaf result).IsJoin discipline .inter (.leaf a) (.leaf b) where
  formed := asks.formed
  holds _ engine document fits := by
    rw [asks.holds engine document fits, asksA.holds engine document fits,
      asksB.holds engine document fits]
    exact fits.hasValue_and single agree

/-- A leaf that asks for what the first of two asks for is their intersection if
the first implies the second. -/
theorem isJoin_inter_of_imp
    (asks : result.Asks discipline field r)
    (asksA : a.Asks discipline field p)
    (asksB : b.Asks discipline field q)
    (agree : ∀ value, value.isOf (discipline.types field).fieldType = true →
      r value = p value)
    (implied : ∀ value, value.isOf (discipline.types field).fieldType = true →
      p value = true → q value = true) :
    (Node.leaf result).IsJoin discipline .inter (.leaf a) (.leaf b) where
  formed := asks.formed
  holds _ engine document fits := by
    rw [asks.holds engine document fits, asksA.holds engine document fits,
      asksB.holds engine document fits, fits.hasValue_congr agree]
    exact (fits.hasValue_and_of_imp implied).symm

/-- On a field that is no array, leaves that no value satisfies together exclude
each other. -/
theorem excludes
    (asksA : a.Asks discipline field p)
    (asksB : b.Asks discipline field q)
    (single : (discipline.types field).isArray = false)
    (disjoint : ∀ value, value.isOf (discipline.types field).fieldType = true →
      (p value && q value) = false)
    (error : Error) :
    MergeOperation.inter.Merges discipline (.leaf a) (.leaf b)
      (.error error) := by
  refine fun _ => ⟨rfl, fun _ engine document fits => ?_⟩
  rw [asksA.holds engine document fits, asksB.holds engine document fits,
    ← fits.hasValue_and single fun value _ => rfl, fits.hasValue_congr disjoint]
  exact List.any_eq_false.mpr fun value _ => Bool.false_ne_true

end Leaf.Asks

end SearchQuery
