import SearchQuery.Proofs.LeafMerges
import SearchQuery.Proofs.LeafOutcomes

/-!
# Presence beside other conditions

Under one key, presence takes in what it is united with and gives way to what it
meets. A document is judged rightly by the result unless the other condition
holds for it without a value in the field. Conditions on the values of the field
never do. Lists of identifiers and queries in the language of the search engine
may.
-/

namespace SearchQuery
namespace Leaf

section AtKey

variable {a b : Leaf}
  (different : a.same b = false)
  (notNothingA : a.isNothing = false)
  (notNothingB : b.isNothing = false)
  (notEverythingA : ∀ boost, a ≠ .everything boost)
  (notEverythingB : ∀ boost, b ≠ .everything boost)
  (sameKey : a.key = b.key)
include different notNothingA notNothingB notEverythingA notEverythingB sameKey

/-- Different conditions with one key merge by the rule of the key. -/
theorem merge_eq_mergeAtKey (operation : MergeOperation) :
    merge operation a b = mergeAtKey operation a b := by
  have notTrivialA : a.isTrivial = false :=
    isTrivial_eq_false (by rintro rfl; cases notNothingA) notEverythingA
  have notTrivialB : b.isTrivial = false :=
    isTrivial_eq_false (by rintro rfl; cases notNothingB) notEverythingB
  rw [merge_eq_of_differ operation different
    (by rw [notTrivialA, notTrivialB]; rfl),
    if_pos sameKey]

end AtKey

end Leaf

/-- The engine that finds every document by any query in its own language, and
none by conditions on fields. -/
def Engine.lenient : Engine where
  verdict leaf _ := leaf matches .queryText _
  verdict_bare leaf _ _ := by
    cases leaf <;> rfl
  verdict_needs_value leaf _ _ hasScope found := by
    cases leaf with
    | queryText content => cases hasScope
    | _ => cases found
  verdict_queryText _ _ _ := rfl

namespace Presence

/-- What remains when presence is merged with a condition under its key. -/
def remains (presence : Presence) : MergeOperation → Leaf → Leaf
  | .union, _ => .presence presence
  | .inter, leaf => leaf

/-- Only presence is the same as presence. -/
theorem eq_of_same
    {presence : Presence}
    {leaf : Leaf}
    (alike : (Leaf.presence presence).same leaf = true) :
    leaf = .presence presence := by
  cases leaf with
  | presence content =>
      rw [Leaf.same, beq_iff_eq] at alike
      rw [alike]
  | _ => cases alike

/-- A condition that is not presence gives way to it in a union and takes its
place in an intersection. -/
theorem mergeAtKey_eq_remains_of_ne
    {presence : Presence}
    {leaf : Leaf}
    (notPresence : ∀ other, leaf ≠ .presence other)
    (operation : MergeOperation) :
    Leaf.mergeAtKey operation leaf (.presence presence) =
      .ok (.leaf (presence.remains operation leaf)) := by
  cases leaf with
  | presence other => exact absurd rfl (notPresence other)
  | _ => cases operation <;> rfl

section Merging

variable {presence : Presence} {leaf : Leaf}
  (sameKey : leaf.key = presence.field)
  (notNothing : leaf.isNothing = false)
  (notEverything : ∀ boost, leaf ≠ .everything boost)
include sameKey notNothing notEverything

/-- Presence merges with a condition under its key. -/
theorem merge_eq_remains (operation : MergeOperation) :
    Leaf.merge operation (.presence presence) leaf =
      .ok (.leaf (presence.remains operation leaf)) := by
  cases alike : (Leaf.presence presence).same leaf with
  | true =>
      cases eq_of_same alike
      cases operation <;> exact if_pos alike
  | false =>
      rw [Leaf.merge_eq_mergeAtKey alike rfl notNothing nofun notEverything
        sameKey.symm]
      cases operation <;> rfl

/-- A condition that is not presence merges with presence under its key. -/
theorem merge_eq_remains_of_ne
    (notPresence : ∀ other, leaf ≠ .presence other)
    (operation : MergeOperation) :
    Leaf.merge operation leaf (.presence presence) =
      .ok (.leaf (presence.remains operation leaf)) := by
  have different : leaf.same (.presence presence) = false := by
    cases leaf with
    | presence other => exact absurd rfl (notPresence other)
    | _ => rfl
  rw [Leaf.merge_eq_mergeAtKey different notNothing rfl notEverything
    nofun sameKey]
  exact mergeAtKey_eq_remains_of_ne notPresence operation

end Merging

section Judging

variable {presence : Presence} {leaf : Leaf} (engine : Engine)
  (document : StoredDocument)

theorem holds_iff :
    (Leaf.presence presence).holds engine document = true ↔
      document.values presence.field ≠ [] := by
  simp [Leaf.holds]

/-- A document is judged rightly by what remains, unless the condition holds for
it without a value in the field. -/
theorem holds_remains_iff (operation : MergeOperation) :
    (presence.remains operation leaf).holds engine document =
        operation.join ((Leaf.presence presence).holds engine document)
          (leaf.holds engine document) ↔
      (leaf.holds engine document = true →
        document.values presence.field ≠ []) := by
  rw [← holds_iff engine document, Eq.comm]
  cases operation with
  | union => exact Bool.or_eq_left_iff_imp
  | inter => exact Bool.and_eq_right_iff_imp

end Judging

end Presence

namespace Node

variable {presence : Presence} {leaf : Leaf}

/-- If presence and a condition leave what remains of them, and the condition
holds only for documents with a value in the field, then these are judged
rightly. -/
theorem holds_of_eq_remains
    {operation : MergeOperation}
    {result : Except Error Node}
    (success : result = .ok (.leaf (presence.remains operation leaf)))
    (needsValue : ∀ engine document, leaf.holds engine document = true →
      document.values presence.field ≠ []) :
    ∃ node, result = .ok node ∧
      ∀ engine document, node.holds engine document =
        operation.join ((Leaf.presence presence).holds engine document)
          (leaf.holds engine document) := by
  refine ⟨_, success, fun engine document => ?_⟩
  rw [holds_leaf]
  exact (Presence.holds_remains_iff engine document operation).mpr
    (needsValue engine document)

/-- Everything merges rightly with presence. -/
theorem holds_merge_everything (boost : Binary64) (operation : MergeOperation) :
    (∃ node, merge operation (.leaf (.presence presence))
      (.leaf (.everything boost)) = .ok node ∧
      ∀ engine document, node.holds engine document =
        operation.join ((Leaf.presence presence).holds engine document) true) ∧
    ∃ node,
      merge operation (.leaf (.everything boost))
        (.leaf (.presence presence)) = .ok node ∧
      ∀ engine document, node.holds engine document =
        operation.join true
          ((Leaf.presence presence).holds engine document) := by
  cases operation with
  | union =>
      exact ⟨⟨_, rfl, fun _ _ => (Bool.or_true _).symm⟩, _, rfl, fun _ _ => rfl⟩
  | inter =>
      exact ⟨⟨_, rfl, fun _ _ => by simp [MergeOperation.join]⟩, _, rfl,
        fun _ _ => by simp [MergeOperation.join]⟩

/-- Documents are judged by a condition merged with presence under its key as by
the two, in either order. -/
theorem holds_merge_presence
    (sameKey : leaf.key = presence.field)
    (known : leaf.isForeign = false ∨ ∃ boost, leaf = .everything boost)
    (operation : MergeOperation) :
    (∃ node, merge operation (.leaf (.presence presence))
      (.leaf leaf) = .ok node ∧
      ∀ engine document, node.holds engine document =
        operation.join ((Leaf.presence presence).holds engine document)
          (leaf.holds engine document)) ∧
    ∃ node,
      merge operation (.leaf leaf) (.leaf (.presence presence)) = .ok node ∧
      ∀ engine document, node.holds engine document =
        operation.join (leaf.holds engine document)
          ((Leaf.presence presence).holds engine document) := by
  rcases known with notForeign | ⟨boost, rfl⟩
  · have notNothing : leaf.isNothing = false := by
      cases leaf with
      | nothing => cases notForeign
      | _ => rfl
    have notEverything : ∀ boost, leaf ≠ .everything boost := by
      rintro boost rfl
      cases notForeign
    have needsValue : ∀ engine document, leaf.holds engine document = true →
        document.values presence.field ≠ [] :=
      fun engine document holds =>
        sameKey ▸ Leaf.values_ne_nil_of_isForeign_eq_false notForeign holds
    rw [merge_leaf, merge_leaf]
    refine ⟨holds_of_eq_remains
      (Presence.merge_eq_remains sameKey notNothing notEverything operation)
        needsValue, ?_⟩
    by_cases isPresence : ∃ other, leaf = .presence other
    · obtain ⟨other, rfl⟩ := isPresence
      have otherKey : (Leaf.presence presence).key = other.field :=
        Eq.symm sameKey
      refine holds_of_eq_remains
        (Presence.merge_eq_remains otherKey rfl nofun operation)
          fun engine document holds => ?_
      rw [← otherKey]
      exact (Presence.holds_iff engine document).mp holds
    · simp only [operation.join_comm (leaf.holds _ _)]
      exact holds_of_eq_remains
        (Presence.merge_eq_remains_of_ne sameKey notNothing notEverything
        (not_exists.mp isPresence) operation) needsValue
  · exact holds_merge_everything boost operation

/-- Documents are judged by amber colors merged with colors as by the two. -/
theorem holds_merge_presence_amber :
    (∃ node,
      merge .union (.leaf (.presence ⟨"color", false⟩))
        (.leaf
          (.term ⟨⟨"color", ⟨.keyword, false⟩, .one, false⟩, .str "amber"⟩)) =
          .ok node ∧
      ∀ engine document, node.holds engine document =
        ((Leaf.presence ⟨"color", false⟩).holds engine document ||
          (Leaf.term ⟨⟨"color", ⟨.keyword, false⟩, .one, false⟩,
            .str "amber"⟩).holds engine
            document)) ∧
    ∃ node,
      merge .union
        (.leaf
          (.term ⟨⟨"color", ⟨.keyword, false⟩, .one, false⟩, .str "amber"⟩))
        (.leaf (.presence ⟨"color", false⟩)) = .ok node ∧
      ∀ engine document, node.holds engine document =
        ((Leaf.term ⟨⟨"color", ⟨.keyword, false⟩, .one, false⟩,
          .str "amber"⟩).holds engine
            document ||
          (Leaf.presence ⟨"color", false⟩).holds engine document) :=
  holds_merge_presence rfl (.inl rfl) .union

/-- A document is judged rightly by any condition merged with presence under its
key, unless the condition holds for it without a value in the field. -/
theorem holds_merge_presence_iff
    {operation : MergeOperation}
    {node : Node}
    {engine : Engine}
    {document : StoredDocument}
    (sameKey : leaf.key = presence.field)
    (notNothing : leaf.isNothing = false)
    (notEverything : ∀ boost, leaf ≠ .everything boost)
    (success : merge operation (.leaf (.presence presence)) (.leaf leaf) =
      .ok node) :
    node.holds engine document =
        operation.join ((Leaf.presence presence).holds engine document)
          (leaf.holds engine document) ↔
      (leaf.holds engine document = true →
        document.values presence.field ≠ []) := by
  rw [merge_leaf, Presence.merge_eq_remains sameKey notNothing notEverything]
    at success
  cases success
  rw [holds_leaf]
  exact Presence.holds_remains_iff engine document operation

/-- Not every condition merges rightly with presence under its key: a query in
the language of the search engine need not ask for its default field. -/
theorem not_exists_forall_holds_merge_presence :
    ¬∃ operation : MergeOperation,
      ∀ (presence : Presence) (leaf : Leaf) (node : Node)
      (engine : Engine) (document : StoredDocument),
      leaf.key = presence.field → leaf.isNothing = false →
      merge operation (.leaf (.presence presence)) (.leaf leaf) = .ok node →
      node.holds engine document =
        operation.join ((Leaf.presence presence).holds engine document)
          (leaf.holds engine document) := by
  rintro ⟨operation, law⟩
  have merged : merge operation (.leaf (.presence ⟨"f", false⟩))
      (.leaf (.queryText ⟨"other:x", some "f", .one⟩)) = _ :=
    (merge_leaf ..).trans
      (Presence.merge_eq_remains rfl rfl (by simp) operation)
  have right := law ⟨"f", false⟩ (.queryText ⟨"other:x", some "f", .one⟩)
    _ .lenient
    ⟨"1", fun field => if field = "other" then [.str "x"] else []⟩
      rfl rfl merged
  exact (holds_merge_presence_iff rfl rfl (by simp) merged).mp right rfl rfl

end Node
end SearchQuery
