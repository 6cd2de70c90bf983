import SearchQuery.Leaf.Halving
import SearchQuery.Leaf.Scope

/-!
# Document identifiers

A set of identifiers, in the order of their code points.
-/

namespace SearchQuery

/-- A document has one of several identifiers, which are in increasing order. -/
structure IdSet where
  values : List String
  boost : Binary64
  increasing : values.Pairwise (· < ·)

namespace IdSet

/-- The field under which conditions on identifiers are merged. -/
def field : String := "_id"

/-- Insert an identifier in order, once. -/
def insertId (id : String) : List String → List String
  | [] => [id]
  | first :: rest =>
      if id = first then first :: rest
      else if id < first then id :: first :: rest
      else first :: insertId id rest

theorem mem_insertId {id other : String} {ids : List String} :
    other ∈ insertId id ids ↔ other = id ∨ other ∈ ids := by
  induction ids with
  | nil => rw [insertId, List.mem_singleton, or_iff_left List.not_mem_nil]
  | cons first rest hypothesis =>
      rw [insertId]
      split
      · rename_i same
        rw [List.mem_cons, same, ← or_assoc, or_self]
      · split
        · rw [List.mem_cons]
        · rw [List.mem_cons, List.mem_cons, hypothesis, or_left_comm]

theorem pairwise_insertId
    {id : String}
    {ids : List String}
    (increasing : ids.Pairwise (· < ·)) :
    (insertId id ids).Pairwise (· < ·) := by
  induction ids with
  | nil => exact List.pairwise_singleton _ id
  | cons first rest hypothesis =>
      obtain ⟨least, increasingRest⟩ := List.pairwise_cons.mp increasing
      rw [insertId]
      split
      · exact increasing
      · rename_i differs
        split
        · rename_i below
          refine List.pairwise_cons.mpr ⟨?_, increasing⟩
          intro other isOther
          rcases List.mem_cons.mp isOther with rfl | later
          · exact below
          · exact String.lt_trans below (least other later)
        · rename_i notBelow
          refine List.pairwise_cons.mpr ⟨?_, hypothesis increasingRest⟩
          intro other isOther
          rcases mem_insertId.mp isOther with rfl | later
          · exact Decidable.byContradiction fun notAbove =>
              differs
                (String.le_antisymm (String.not_lt.mp notAbove)
                  (String.not_lt.mp notBelow))
          · exact least other later

/-- The given identifiers are inserted one after the other. -/
def insertAll (ids values : List String) : List String :=
  values.foldl (fun set id => insertId id set) ids

theorem pairwise_insertAll
    {ids values : List String}
    (increasing : ids.Pairwise (· < ·)) :
    (insertAll ids values).Pairwise (· < ·) := by
  induction values generalizing ids with
  | nil => exact increasing
  | cons id rest hypothesis => exact hypothesis (pairwise_insertId increasing)

/-- The set of the given identifiers. -/
def ofValues (boost : Binary64) (values : List String) : IdSet :=
  ⟨insertAll [] values, boost, pairwise_insertAll .nil⟩

/-- The identifier is one of the set. -/
def contains (ids : IdSet) (id : String) : Bool :=
  (Halving.floorOrFirst? (fun middle => id < middle) ids.values).any
    fun found => found == id

/-- Sameness of identifiers and weight. -/
def same (a b : IdSet) : Bool := a.values == b.values && a.boost.equals b.boost

end IdSet
end SearchQuery
