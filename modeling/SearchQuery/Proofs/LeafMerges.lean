import SearchQuery.Proofs.PatternMerges
import SearchQuery.Proofs.RangeMerges

/-!
# Merges of leaves are right

Presence takes in every condition on its field, and everything takes in all
else. The other pairs merge by the rules of their kinds, or stay side by side.
-/

namespace SearchQuery
namespace Leaf

open MergeOperation

variable {discipline : Discipline} {operation : MergeOperation}
  {a b leaf : Leaf}

/-- Merging leaves that ask for the same is right if leaving the others apart
is. -/
theorem merges_mergeSame
    {apart : Node → Node → Node}
    (formedA : (Node.leaf a).WellFormed (Keeps discipline))
    (formedB : (Node.leaf b).WellFormed (Keeps discipline))
    (join : (apart (.leaf a) (.leaf b)).IsJoin discipline operation (.leaf a)
      (.leaf b)) :
    operation.Merges discipline (.leaf a) (.leaf b) (mergeSame apart a b) := by
  unfold mergeSame
  split
  · rename_i alike
    refine .agreed fun weights =>
      .of_holds_eq formedA fun engine document fits => ?_
    rw [Node.holds_leaf, Node.holds_leaf]
    exact holds_eq_of_sameCondition formedA.lawful_leaf formedB.lawful_leaf fits
      alike weights
  · exact join

/-- The leaf does not ask for values of the field under whose key it stands. -/
def isForeign : Leaf → Bool
  | .ids _ | .queryText _ | .everything _ | .nothing => true
  | _ => false

/-- A condition on the values of the field under whose key it stands holds only
where the field has a value. -/
theorem values_ne_nil_of_isForeign_eq_false
    {engine : Engine}
    {document : StoredDocument}
    (notForeign : leaf.isForeign = false)
    (holds : leaf.holds engine document = true) :
    document.values leaf.key ≠ [] := by
  cases leaf with
  | term content => exact StoredDocument.values_ne_nil_of_hasValue holds
  | valueSet content => exact StoredDocument.values_ne_nil_of_hasValue holds
  | range content => exact StoredDocument.values_ne_nil_of_hasValue holds
  | fullText content =>
      exact engine.verdict_needs_value _ content.toScope document rfl holds
  | phrase content =>
      exact engine.verdict_needs_value _ content.toScope document rfl holds
  | pattern content =>
      rw [Leaf.holds] at holds
      split at holds
      · exact StoredDocument.values_ne_nil_of_hasValue holds
      · exact engine.verdict_needs_value _ content.toScope document rfl holds
  | presence content =>
      rw [show (Leaf.presence content).key = content.field from rfl]
      simpa [Leaf.holds] using holds
  | _ => cases notForeign

/-- A condition under the key of a field whose presence may be asked for holds
only where the field has a value. -/
theorem values_ne_nil_of_holds
    {field : String}
    {engine : Engine}
    {document : StoredDocument}
    (separated : discipline.IsSeparated)
    (probed : discipline.probed field)
    (keeps : leaf.Keeps discipline)
    (condition : leaf.isNothing = false)
    (notEverything : ∀ boost, leaf ≠ .everything boost)
    (sameKey : leaf.key = field)
    (holds : leaf.holds engine document = true) :
    document.values field ≠ [] := by
  rw [← sameKey]
  refine values_ne_nil_of_isForeign_eq_false ?_ holds
  cases leaf with
  | ids content => exact absurd (sameKey ▸ keeps) (separated field probed)
  | queryText content => exact absurd (sameKey ▸ keeps) (separated field probed)
  | everything boost => exact absurd rfl (notEverything boost)
  | nothing => cases condition
  | _ => rfl

section Presence

variable {presence : Presence}
  (formed : (Node.leaf leaf).WellFormed (Keeps discipline))
  (probed : discipline.probed presence.field)
  (notEverything : ∀ boost, leaf ≠ .everything boost)
  (sameKey : leaf.key = presence.field)
include formed probed notEverything sameKey

/-- Where a condition under the key of a field holds, the field is present. -/
theorem presence_of_holds
    {engine : Engine}
    {document : StoredDocument}
    (separated : discipline.IsSeparated)
    (holds : leaf.holds engine document = true) :
    (Leaf.presence presence).holds engine document = true := by
  have isThere := values_ne_nil_of_holds separated probed formed.lawful_leaf
    formed.condition_leaf
    notEverything sameKey holds
  simpa [Leaf.holds] using isThere

/-- Presence is the union with a condition under its key. -/
theorem isJoin_presence_union :
    (Node.leaf (.presence presence)).IsJoin discipline .union
      (.leaf (.presence presence))
      (.leaf leaf) where
  formed := .leaf rfl probed
  holds separated engine document _ := by
    rw [Node.holds_leaf, Node.holds_leaf, Eq.comm]
    exact Bool.or_eq_left_iff_imp.mpr
      (presence_of_holds formed probed notEverything sameKey separated)

/-- A condition is the intersection with presence under its key. -/
theorem isJoin_presence_inter :
    (Node.leaf leaf).IsJoin discipline .inter (.leaf (.presence presence))
      (.leaf leaf) where
  formed := formed
  holds separated engine document _ := by
    rw [Node.holds_leaf, Node.holds_leaf, Eq.comm]
    exact Bool.and_eq_right_iff_imp.mpr
      (presence_of_holds formed probed notEverything sameKey separated)

end Presence

section AtKey

variable (formedA : (Node.leaf a).WellFormed (Keeps discipline))
  (formedB : (Node.leaf b).WellFormed (Keeps discipline))
  (notEverythingA : ∀ boost, a ≠ .everything boost)
  (notEverythingB : ∀ boost, b ≠ .everything boost)
  (sameKey : a.key = b.key)
include formedA formedB notEverythingA notEverythingB sameKey

/-- The union of conditions with one key is right. -/
theorem merges_unionAtKey (tight : discipline.tight = true) :
    MergeOperation.union.Merges discipline (.leaf a) (.leaf b)
      (unionAtKey a b) := by
  have keepsA := formedA.lawful_leaf
  have keepsB := formedB.lawful_leaf
  unfold unionAtKey
  split
  · exact isJoin_presence_union formedB keepsA notEverythingB sameKey.symm
  · exact .symm (isJoin_presence_union formedA keepsB notEverythingA sameKey)
  · exact IdSet.merges_union keepsA
  · intro exclusion
    cases exclusion
  · intro exclusion
    cases exclusion
  · exact Term.merges_union keepsA keepsB sameKey
  · exact ValueSet.merges_unionTerm keepsA keepsB sameKey
  · exact .symm (ValueSet.merges_unionTerm keepsB keepsA sameKey.symm)
  · exact ValueSet.merges_union keepsA keepsB sameKey
  · exact Range.merges_union keepsA keepsB sameKey
  · exact Range.merges_unionTerm keepsA tight keepsB sameKey
  · exact .symm (Range.merges_unionTerm keepsB tight keepsA sameKey.symm)
  · exact Range.merges_unionValues keepsA tight keepsB sameKey
  · exact .symm (Range.merges_unionValues keepsB tight keepsA sameKey.symm)
  · exact Pattern.merges_union keepsA keepsB rfl sameKey
  · exact Pattern.merges_union keepsA keepsB rfl sameKey
  · exact .symm (Pattern.merges_union keepsB keepsA rfl sameKey.symm)
  · exact .symm (Pattern.merges_union keepsB keepsA rfl sameKey.symm)
  · exact merges_mergeSame formedA formedB (.either formedA formedB)

/-- The intersection of conditions with one key is right. -/
theorem merges_interAtKey :
    MergeOperation.inter.Merges discipline (.leaf a) (.leaf b)
      (interAtKey a b) := by
  have keepsA := formedA.lawful_leaf
  have keepsB := formedB.lawful_leaf
  unfold interAtKey
  split
  · exact isJoin_presence_inter formedB keepsA notEverythingB sameKey.symm
  · exact .symm (isJoin_presence_inter formedA keepsB notEverythingA sameKey)
  · exact IdSet.merges_inter keepsA
  · intro exclusion
    cases exclusion
  · intro exclusion
    cases exclusion
  · exact Term.merges_inter keepsA keepsB sameKey
  · exact ValueSet.merges_interTerm keepsA keepsB sameKey
  · exact .symm (ValueSet.merges_interTerm keepsB keepsA sameKey.symm)
  · exact ValueSet.merges_inter keepsA keepsB sameKey
  · exact Range.merges_inter keepsA keepsB sameKey
  · exact Range.merges_interTerm keepsA keepsB sameKey
  · exact .symm (Range.merges_interTerm keepsB keepsA sameKey.symm)
  · exact Range.merges_interValues keepsA keepsB sameKey
  · exact .symm (Range.merges_interValues keepsB keepsA sameKey.symm)
  · exact Pattern.merges_inter keepsA keepsB rfl sameKey
  · exact Pattern.merges_inter keepsA keepsB rfl sameKey
  · exact .symm (Pattern.merges_inter keepsB keepsA rfl sameKey.symm)
  · exact .symm (Pattern.merges_inter keepsB keepsA rfl sameKey.symm)
  · exact merges_mergeSame formedA formedB (.both formedA formedB)

end AtKey

section Merging

variable (formedA : (Node.leaf a).WellFormed (Keeps discipline))
  (formedB : (Node.leaf b).WellFormed (Keeps discipline))
include formedA formedB

theorem isJoin_of_same (alike : a.same b = true) :
    (Node.leaf a).IsJoin discipline operation (.leaf a) (.leaf b) := by
  refine .of_holds_eq formedA fun engine document fits => ?_
  rw [Node.holds_leaf, Node.holds_leaf]
  exact holds_eq_of_same formedA.lawful_leaf formedB.lawful_leaf fits alike

/-- The union of leaves is right where ranges leave a place for a value. -/
theorem merges_union (tight : discipline.tight = true) :
    MergeOperation.union.Merges discipline (.leaf a) (.leaf b) (a.union b) := by
  unfold Leaf.union
  split
  · rename_i alike
    exact isJoin_of_same formedA formedB alike
  · split
    · cases formedA.condition_leaf
    · cases formedB.condition_leaf
    · exact ⟨formedA, fun _ _ _ _ => rfl⟩
    · exact ⟨formedB, fun _ _ _ _ => (Bool.or_true _).symm⟩
    · rename_i notEverythingA _ notEverythingB
      split
      · rename_i sameKey
        exact merges_unionAtKey formedA formedB notEverythingA notEverythingB
          sameKey tight
      · exact .either formedA formedB

/-- The intersection of leaves is right. -/
theorem merges_inter :
    MergeOperation.inter.Merges discipline (.leaf a) (.leaf b) (a.inter b) := by
  unfold Leaf.inter
  split
  · rename_i alike
    exact isJoin_of_same formedA formedB alike
  · split
    · cases formedA.condition_leaf
    · cases formedB.condition_leaf
    · exact ⟨formedB, fun _ _ _ _ => rfl⟩
    · exact ⟨formedA, fun _ _ _ _ => (Bool.and_true _).symm⟩
    · rename_i notEverythingA _ notEverythingB
      split
      · rename_i sameKey
        exact merges_interAtKey formedA formedB notEverythingA
          notEverythingB sameKey
      · exact .both formedA formedB

theorem merges_merge (tight : operation = .union → discipline.tight = true) :
    operation.Merges discipline (.leaf a) (.leaf b)
      (Leaf.merge operation a b) := by
  cases operation with
  | union => exact merges_union formedA formedB (tight rfl)
  | inter => exact merges_inter formedA formedB

end Merging

end Leaf
end SearchQuery
