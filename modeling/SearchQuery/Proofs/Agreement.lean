import SearchQuery.Proofs.CompiledForm
import SearchQuery.Proofs.MergeSymmetry

/-!
# Agreement

Leaves agree if those with one key have one weight, unless they ask for words
and not for the same, and if sets of identifiers do not share their key with
other conditions. The union of agreeing leaves never fails, and the intersection
fails only if no document meets both of them.
-/

namespace SearchQuery

theorem Binary64.equals_of_equals
    {a b weight : Binary64}
    (equalA : a.equals weight = true)
    (equalB : b.equals weight = true) :
    a.equals b = true := by
  simp only [equals, Bool.and_eq_true, beq_iff_eq] at equalA equalB ⊢
  exact ⟨equalA.1, equalA.2.trans equalB.2.symm⟩

/-- The verdict that an operation hands on: what is united from conditions that
do not hold does not hold, and what is intersected from conditions that hold
does. -/
def MergeOperation.neutral : MergeOperation → Bool
  | .union => false
  | .inter => true

theorem MergeOperation.join_neutral (operation : MergeOperation) :
    operation.join operation.neutral operation.neutral = operation.neutral := by
  cases operation <;> rfl

/-- What leaves agree on: the weight for each key of what is asked for in some
words or without words, and whether the key of identifiers belongs to them or to
other conditions. -/
structure Concord where
  weights : String → Option Leaf → Binary64
  identifies : Bool

namespace Leaf

/-- A leaf that is not broad has the weight of its key and its words, and stands
under the key of identifiers only if it is of the kind that is meant there. -/
structure Agrees (concord : Concord) (leaf : Leaf) : Prop where
  weight : leaf.isBroad = false →
    leaf.boost.equals (concord.weights leaf.key leaf.wording?) = true
  kind : leaf.isBroad = false → leaf.key = IdSet.field →
    leaf.isIds = concord.identifies

/-- Agreement lasts. -/
theorem isLasting_agrees (concord : Concord) : IsLasting (Agrees concord) where
  recast leaf result recast filled agrees := by
    have akin := recast.isAkin filled
    constructor
    · rw [akin.isBroad, akin.boost, akin.key, akin.wording]
      exact agrees.weight
    · rw [akin.isBroad, akin.key, akin.isIds]
      exact agrees.kind
  presence _ _ := ⟨Bool.noConfusion, Bool.noConfusion⟩

variable {operation : MergeOperation} {a b : Leaf} {node : Node}

/-- Presence merges with a leaf under its key to one of the two. -/
theorem mergeAtKey_eq_of_isBroad
    (operation : MergeOperation)
    (broad : a.isBroad = true ∨ b.isBroad = true)
    (notTrivial : (a.isTrivial || b.isTrivial) = false) :
    mergeAtKey operation a b = .ok (.leaf a) ∨ mergeAtKey operation a b =
      .ok (.leaf b) := by
  obtain ⟨notTrivialA, notTrivialB⟩ := Bool.or_eq_false_iff.mp notTrivial
  rcases broad with broad | broad
  · cases a with
    | presence content =>
        cases operation with
        | union => exact .inl rfl
        | inter => exact .inr rfl
    | everything boost => cases notTrivialA
    | _ => cases broad
  · cases b with
    | presence content =>
        cases operation with
        | union =>
            cases a with
            | presence other => exact .inl rfl
            | _ => exact .inr rfl
        | inter =>
            cases a with
            | presence other => exact .inr rfl
            | _ => exact .inl rfl
    | everything boost => cases notTrivialB
    | _ => cases broad

/-- A broad leaf merges with any other to one of the two, or stands beside
it. -/
theorem merge_eq_of_isBroad (broad : a.isBroad = true ∨ b.isBroad = true) :
    merge operation a b = .ok (.leaf a) ∨ merge operation a b = .ok (.leaf b) ∨
      merge operation a b = .ok (operation.apart (.leaf a) (.leaf b)) := by
  cases merging operation a b with
  | left merges => exact .inl merges
  | right merges => exact .inr (.inl merges)
  | atKey merges _ _ notTrivial =>
      rw [merges]
      exact (mergeAtKey_eq_of_isBroad operation broad notTrivial).imp_right .inl
  | apart merges => exact .inr (.inr merges)

/-- Leaves that fail to merge are not broad. -/
theorem isBroad_eq_false_of_merge_eq_error
    {error : Error}
    (failure : merge operation a b = .error error) :
    a.isBroad = false ∧ b.isBroad = false := by
  rw [← Bool.or_eq_false_iff, Bool.eq_false_iff, ne_eq, Bool.or_eq_true]
  intro broad
  rcases merge_eq_of_isBroad broad with success | success | success <;>
    rw [failure] at success <;> cases success

/-- Leaves with a meaning, of one weight if they ask for the same in words and
both of identifiers or of none, fail to merge only for an exclusion, and only
under intersection. -/
theorem isExclusion_of_merge_eq_error
    {error : Error}
    (weights : a.wording? = b.wording? → a.boost.equals b.boost = true)
    (kinds : a.isIds = b.isIds)
    (neatA : a.IsNeat)
    (neatB : b.IsNeat)
    (failure : merge operation a b = .error error) :
    operation = .inter ∧ error.isExclusion = true := by
  have outcome := outcome_merge operation a b
  rw [failure] at outcome
  cases outcome with
  | weights sameWording differ =>
      have equal := weights sameWording
      rw [Binary64.equals_comm b.boost, equal] at differ
      simp at differ
  | kinds unlike => exact absurd kinds unlike
  | pattern given refused =>
      rcases given with rfl | rfl
      · obtain ⟨holds, meaning⟩ := neatA
        rw [meaning] at refused
        cases refused
      · obtain ⟨holds, meaning⟩ := neatB
        rw [meaning] at refused
        cases refused
  | exclusion isInter isExclusion => exact ⟨isInter, isExclusion⟩

/-- Narrow leaves of one key that agree list identifiers both or not at all. -/
theorem isIds_eq_of_agrees
    {concord : Concord}
    (agreesA : a.Agrees concord)
    (agreesB : b.Agrees concord)
    (narrowA : a.isBroad = false)
    (narrowB : b.isBroad = false)
    (sameKey : a.key = b.key) :
    a.isIds = b.isIds := by
  have alike : a.key = IdSet.field → a.isIds = b.isIds := fun isKey =>
    (agreesA.kind narrowA isKey).trans
      (agreesB.kind narrowB (sameKey ▸ isKey)).symm
  cases a with
  | ids content => exact alike rfl
  | _ =>
      cases b with
      | ids content => exact alike sameKey
      | _ => rfl

end Leaf

section Verdicts

variable {discipline : Discipline} {operation : MergeOperation}
  {engine : Engine}
  {document : StoredDocument} {a b : Leaf}

/-- The same discipline, under which nobody asks for presence. -/
def Discipline.unprobed (discipline : Discipline) : Discipline :=
  { discipline with probed := fun _ => False }

theorem Discipline.isSeparated_unprobed (discipline : Discipline) :
    discipline.unprobed.IsSeparated :=
  fun _ => False.elim

/-- A leaf that does not ask for presence keeps to the discipline under which
nobody does. -/
theorem Leaf.Keeps.unprobed
    (keeps : a.Keeps discipline)
    (narrow : a.isBroad = false) :
    a.Keeps discipline.unprobed := by
  cases a
  case presence content => cases narrow
  case range content =>
    have range : content.Keeps discipline := keeps
    exact ⟨range.typed, range.ordered, range.isOf, range.nonempty⟩
  all_goals exact keeps

/-- Narrow leaves merge rightly even where conditions that read no field stand
under the key of one whose presence is asked for. -/
theorem Leaf.merges_of_narrow
    (tight : discipline.tight = true)
    (formedA : (Node.leaf a).WellFormed (Keeps discipline))
    (formedB : (Node.leaf b).WellFormed (Keeps discipline))
    (narrowA : a.isBroad = false)
    (narrowB : b.isBroad = false) :
    operation.Merges discipline.unprobed (.leaf a) (.leaf b)
      (merge operation a b) :=
  merges_merge
    (.leaf formedA.condition_leaf (formedA.lawful_leaf.unprobed narrowA))
    (.leaf formedB.condition_leaf (formedB.lawful_leaf.unprobed narrowB))
      fun _ => tight

/-- Leaves of which neither holds unite to a node that does not hold, and leaves
that both hold intersect to a node that holds. -/
theorem Leaf.holds_of_merge_eq_ok
    {node : Node}
    (tight : discipline.tight = true)
    (formedA : (Node.leaf a).WellFormed (Keeps discipline))
    (formedB : (Node.leaf b).WellFormed (Keeps discipline))
    (fits : document.Fits discipline.types)
    (verdictA : (Node.leaf a).holds engine document = operation.neutral)
    (verdictB : (Node.leaf b).holds engine document = operation.neutral)
    (success : merge operation a b = .ok node) :
    node.holds engine document = operation.neutral := by
  by_cases broad : a.isBroad = true ∨ b.isBroad = true
  · rcases merge_eq_of_isBroad broad with merged | merged | merged <;>
      rw [success] at merged <;> cases merged
    · exact verdictA
    · exact verdictB
    · cases operation with
      | union =>
          change (Node.either (.leaf a) (.leaf b)).holds engine document = false
          rw [Node.holds_either formedA formedB, verdictA, verdictB]
          rfl
      | inter =>
          change (Node.both (.leaf a) (.leaf b)).holds engine document = true
          rw [Node.holds_both formedA formedB, verdictA, verdictB]
          rfl
  · simp only [not_or, Bool.not_eq_true] at broad
    have merges :
        operation.Merges discipline.unprobed (.leaf a) (.leaf b)
          (merge operation a b) :=
      merges_of_narrow tight formedA formedB broad.1 broad.2
    rw [success] at merges
    have join :
        node.IsJoin discipline.unprobed operation (.leaf a) (.leaf b) := merges
    rw [join.holds discipline.isSeparated_unprobed engine document fits,
      verdictA, verdictB, operation.join_neutral]

/-- Agreeing leaves merge, if under intersection some document meets both. -/
theorem Leaf.exists_merge
    {concord : Concord}
    (tight : discipline.tight = true)
    (formedA : (Node.leaf a).WellFormed (Keeps discipline))
    (formedB : (Node.leaf b).WellFormed (Keeps discipline))
    (agreesA : a.Agrees concord)
    (agreesB : b.Agrees concord)
    (neatA : a.IsNeat)
    (neatB : b.IsNeat)
    (compatible : operation = .inter → ∃ engine document,
      document.Fits discipline.types ∧
      (Node.leaf a).holds engine document = true ∧
        (Node.leaf b).holds engine document = true) :
    ∃ node, merge operation a b = .ok node := by
  cases outcome : merge operation a b with
  | ok node => exact ⟨node, rfl⟩
  | error error =>
      have narrow := isBroad_eq_false_of_merge_eq_error outcome
      have sameKey := key_eq_of_merge_eq_error outcome
      obtain ⟨isInter, isExclusion⟩ := isExclusion_of_merge_eq_error
        (fun sameWording => Binary64.equals_of_equals (agreesA.weight narrow.1)
          (sameKey ▸ sameWording ▸ agreesB.weight narrow.2))
        (isIds_eq_of_agrees agreesA agreesB narrow.1 narrow.2 sameKey) neatA
          neatB outcome
      obtain ⟨engine, document, fits, holdsA, holdsB⟩ := compatible isInter
      have merges : operation.Merges discipline.unprobed (.leaf a) (.leaf b)
          (merge operation a b) :=
        merges_of_narrow tight formedA formedB narrow.1 narrow.2
      rw [outcome] at merges
      have apart :=
        (merges isExclusion).2 discipline.isSeparated_unprobed engine
          document fits
      rw [holdsA, holdsB] at apart
      cases apart

end Verdicts

end SearchQuery
