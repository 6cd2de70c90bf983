import SearchQuery.Proofs.RangeLines

/-!
# Intersections of ranges

Ranges on one line of a field with one value that are intersected one after the
other come to one range, which begins where the last of them begins and ends
where the first of them ends. They do so if every two of them overlap, and fail
otherwise. Neither depends on the order.
-/

namespace SearchQuery
namespace Range

variable {line a b range result : Range} {given others rest : List Range}

/-- What overlapping ranges have in common: the first of them where they are the
same, and their inner envelope otherwise. -/
def shared (a b : Range) : Range := if a.same b then a else a.inner b

namespace IsOn

variable (isOnA : line.IsOn a) (isOnB : line.IsOn b)
include isOnA isOnB

/-- What ranges on one line have in common begins where the last of them begins,
and ends where the first of them ends. -/
theorem cuts_shared (ranking : Ranking line.fieldType) :
    (a.shared b).beginning ranking =
      max (a.beginning ranking) (b.beginning ranking) ∧
      (a.shared b).ending ranking =
        min (a.ending ranking) (b.ending ranking) := by
  unfold Range.shared
  split
  · rename_i alike
    obtain ⟨begins, ends⟩ := isOnA.cuts_eq_of_same isOnB ranking alike
    rw [begins, ends, max_self, min_self]
    exact ⟨rfl, rfl⟩
  · exact ⟨beginning_inner ranking isOnA.isOf isOnB.isOf isOnA.fieldType_eq
      isOnB.fieldType_eq,
      ending_inner ranking isOnA.isOf isOnB.isOf isOnA.fieldType_eq
        isOnB.fieldType_eq⟩

/-- What overlapping ranges on a line have in common is on the line. -/
theorem shared (overlap : a.overlaps b = true) : line.IsOn (a.shared b) := by
  unfold Range.shared
  split
  · exact isOnA
  · exact ⟨isOnA.scope, isOnA.relation, isOnA.timeZone,
      isOf_inner isOnA.isOf isOnB.isOf (isOnA.sameType isOnB),
      isEmpty_inner (isOnA.sameType isOnB) isOnA.nonempty
        isOnB.nonempty overlap⟩

/-- What ranges on a line have in common includes what both include. -/
theorem includes_shared {value : Value}
    (isValue : value.isOf line.fieldType = true) :
    (a.shared b).includes value = (a.includes value && b.includes value) := by
  have sameType := isOnA.sameType isOnB
  rw [← isOnA.fieldType_eq] at isValue
  unfold Range.shared
  split
  · rename_i alike
    rw [← includes_eq_of_same isOnA.isOf isOnB.isOf sameType isValue alike,
      Bool.and_self]
  · exact includes_inner isOnA.isOf isOnB.isOf sameType isValue

/-- On a field with one value, ranges on one line intersect to one range if they
overlap, and fail otherwise. -/
theorem inter_eq (single : line.type.isArray = false) :
    a.node.inter b.node =
      if a.overlaps b then .ok (a.shared b).node
      else .error (.emptyIntersection line.field) := by
  obtain ⟨field, type, _, _⟩ := isOnA.parts
  have sameKey : (Leaf.range a).key = (Leaf.range b).key :=
    field.trans isOnB.parts.1.symm
  have agrees : agreed a.field a.boost b.boost (a.inner b).node =
      .ok (a.inner b).node := by
    rw [agreed, agreeOnBoost, isOnA.equals_boost isOnB]
    rfl
  have intersects : a.node.inter b.node =
      if a.same b then .ok a.node
      else if (Leaf.range a).key = (Leaf.range b).key then a.inter b
      else .ok (.both a.node b.node) := by
    rw [Node.inter]
    rfl
  rw [intersects, if_pos sameKey, Range.inter, isOnA.sameOptions isOnB, type,
    single, agrees, field, Range.shared]
  cases alike : a.same b with
  | true =>
      rw [if_pos rfl, if_pos rfl, isOnA.overlaps_of_same isOnB alike,
        if_pos rfl]
  | false => cases a.overlaps b <;> rfl

end IsOn

/-- A range is the intersection of given ones on a line: it includes what all of
them include, lies within each of them, begins where one of them begins, and
ends where one of them ends. -/
structure IsIntersection (line : Range) (ranking : Ranking line.fieldType)
    (given : List Range)
    (result : Range) : Prop where
  isOnGiven : ∀ range ∈ given, line.IsOn range
  isOn : line.IsOn result
  includes : ∀ value, value.isOf line.fieldType = true →
    result.includes value = given.all (·.includes value)
  within : ∀ range ∈ given, range.contains result = true
  begins : ∃ range ∈ given, range.beginning ranking = result.beginning ranking
  ends : ∃ range ∈ given, range.ending ranking = result.ending ranking

variable {ranking : Ranking line.fieldType}

/-- A range is the intersection of itself. -/
theorem isIntersection_singleton (isOn : line.IsOn range) :
    line.IsIntersection ranking [range] range where
  isOnGiven := List.forall_mem_singleton.mpr isOn
  isOn := isOn
  includes value isValue := by rw [List.all_cons, List.all_nil, Bool.and_true]
  within := List.forall_mem_singleton.mpr isOn.overlaps_and_contains_self.2
  begins := ⟨range, List.mem_singleton_self range, rfl⟩
  ends := ⟨range, List.mem_singleton_self range, rfl⟩

namespace IsIntersection

/-- Every two ranges with an intersection overlap. -/
theorem overlaps
    (isIntersection : line.IsIntersection ranking given result)
    (isA : a ∈ given)
    (isB : b ∈ given) :
    a.overlaps b = true :=
  have isOn := isIntersection.isOn
  isOn.overlaps_of_contains isOn (isIntersection.isOnGiven a isA)
    (isIntersection.isOnGiven b isB)
    isOn.overlaps_and_contains_self.1 (isIntersection.within a isA)
      (isIntersection.within b isB)

/-- An intersection overlaps a range that all of the given ranges overlap. It
begins and ends with two of them. -/
theorem overlaps_of_forall
    (isIntersection : line.IsIntersection ranking given result)
    (isOnRange : line.IsOn range)
    (all : ∀ other ∈ given, other.overlaps range = true) :
    result.overlaps range = true := by
  obtain ⟨first, isFirst, begins⟩ := isIntersection.begins
  obtain ⟨last, isLast, ends⟩ := isIntersection.ends
  have overlapFirst := all first isFirst
  have overlapLast := all last isLast
  rw [(isIntersection.isOnGiven first isFirst).overlaps_iff isOnRange ranking]
    at overlapFirst
  rw [(isIntersection.isOnGiven last isLast).overlaps_iff isOnRange ranking]
    at overlapLast
  rw [isIntersection.isOn.overlaps_iff isOnRange ranking, ← begins, ← ends]
  exact ⟨overlapFirst.1, overlapLast.2⟩

/-- What an intersection has in common with a range is the intersection with
that range. -/
theorem shared
    (isIntersection : line.IsIntersection ranking given result)
    (isOnRange : line.IsOn range)
    (overlap : result.overlaps range = true) :
    line.IsIntersection ranking (given ++ [range]) (result.shared range) := by
  have isOn := isIntersection.isOn
  have isOnShared := isOn.shared isOnRange overlap
  obtain ⟨begins, ends⟩ := isOn.cuts_shared isOnRange ranking
  obtain ⟨first, isFirst, beginsFirst⟩ := isIntersection.begins
  obtain ⟨last, isLast, endsLast⟩ := isIntersection.ends
  have isOnAll : ∀ other ∈ given ++ [range], line.IsOn other := by
    rw [List.forall_mem_append, List.forall_mem_singleton]
    exact ⟨isIntersection.isOnGiven, isOnRange⟩
  refine ⟨isOnAll, isOnShared, ?_, ?_, ?_, ?_⟩
  · intro value isValue
    rw [isOn.includes_shared isOnRange isValue,
      isIntersection.includes value isValue, List.all_append, List.all_cons,
      List.all_nil, Bool.and_true]
  · rw [List.forall_mem_append, List.forall_mem_singleton]
    constructor
    · intro other isOther
      have isOnOther := isIntersection.isOnGiven other isOther
      refine isOn.contains_trans isOnShared isOnOther
        (isIntersection.within other isOther) ?_
      rw [isOn.contains_iff isOnShared ranking, begins, ends]
      exact ⟨le_max_left _ _, min_le_left _ _⟩
    · rw [isOnRange.contains_iff isOnShared ranking, begins, ends]
      exact ⟨le_max_right _ _, min_le_right _ _⟩
  · rw [begins]
    rcases max_choice (result.beginning ranking) (range.beginning ranking) with
      same | same
    · exact ⟨first, by simp [isFirst], beginsFirst.trans same.symm⟩
    · exact ⟨range, by simp, same.symm⟩
  · rw [ends]
    rcases min_choice (result.ending ranking) (range.ending ranking) with
      same | same
    · exact ⟨last, by simp [isLast], endsLast.trans same.symm⟩
    · exact ⟨range, by simp, same.symm⟩

/-- Intersections of the same ranges are alike: each contains the other, since
it begins and ends with ranges that contain the other. -/
theorem alike
    {other : Range}
    (isIntersection : line.IsIntersection ranking given result)
    (isOther : line.IsIntersection ranking others other)
    (same : ∀ range, range ∈ given ↔ range ∈ others) :
    result.Alike other := by
  have contains : ∀ {given others : List Range} {result other : Range},
      line.IsIntersection ranking given result →
        line.IsIntersection ranking others other →
        given ⊆ others → result.contains other = true := by
    intro given others result other isIntersection isOther subset
    obtain ⟨first, isFirst, begins⟩ := isIntersection.begins
    obtain ⟨last, isLast, ends⟩ := isIntersection.ends
    have containsFirst := isOther.within first (subset isFirst)
    have containsLast := isOther.within last (subset isLast)
    rw [(isIntersection.isOnGiven first isFirst).contains_iff isOther.isOn
      ranking] at containsFirst
    rw [(isIntersection.isOnGiven last isLast).contains_iff isOther.isOn
      ranking] at containsLast
    rw [isIntersection.isOn.contains_iff isOther.isOn ranking, ← begins, ← ends]
    exact ⟨containsFirst.1, containsLast.2⟩
  exact isIntersection.isOn.alike_of_contains isOther.isOn
    (contains isIntersection isOther fun _ => (same _).mp)
    (contains isOther isIntersection fun _ => (same _).mpr)

/-- Ranges that are intersected one after the other with an intersection leave
the intersection of all, or else two of all do not overlap. -/
theorem foldlM_inter
    (isIntersection : line.IsIntersection ranking given result)
    (single : line.type.isArray = false)
    (isOnRest : ∀ range ∈ rest, line.IsOn range) :
    (∃ final, (rest.map node).foldlM (Node.merge .inter) result.node =
      .ok final.node ∧
      line.IsIntersection ranking (given ++ rest) final) ∨
    ((rest.map node).foldlM (Node.merge .inter) result.node =
        .error (.emptyIntersection line.field) ∧
      ∃ a ∈ given ++ rest, ∃ b ∈ given ++ rest, a.overlaps b = false) := by
  induction rest generalizing given result with
  | nil =>
      exact .inl ⟨result, rfl, (List.append_nil given).symm ▸ isIntersection⟩
  | cons range rest hypothesis =>
      obtain ⟨isOnRange, isOnRest⟩ := List.forall_mem_cons.mp isOnRest
      have intersects := isIntersection.isOn.inter_eq isOnRange single
      rw [List.map_cons, List.foldlM_cons, Node.merge, intersects]
      cases overlap : result.overlaps range with
      | true =>
          have outcome :=
            hypothesis (isIntersection.shared isOnRange overlap) isOnRest
          rw [← List.append_cons given range rest] at outcome
          exact outcome
      | false =>
          have apart : ∃ other ∈ given, other.overlaps range = false := by
            by_contra all
            simp only [not_exists, not_and, Bool.not_eq_false] at all
            rw [isIntersection.overlaps_of_forall isOnRange all] at overlap
            cases overlap
          obtain ⟨other, isOther, separate⟩ := apart
          exact .inr ⟨rfl, other, by simp [isOther], range, by simp, separate⟩

end IsIntersection

section Together

variable (ranking) (single : line.type.isArray = false) (nonempty : given ≠ [])
  (isOn : ∀ range ∈ given, line.IsOn range)
include single nonempty isOn

include ranking in
/-- Ranges on a line of a field with one value come to their intersection, or
else two of them do not overlap. -/
theorem mergeAll_inter :
    (∃ result, Node.mergeAll .inter (given.map node) = .ok result.node ∧
      line.IsIntersection ranking given result) ∨
    (Node.mergeAll .inter (given.map node) =
      .error (.emptyIntersection line.field) ∧
      ∃ a ∈ given, ∃ b ∈ given, a.overlaps b = false) := by
  cases given with
  | nil => exact absurd rfl nonempty
  | cons first rest =>
      obtain ⟨isOnFirst, isOnRest⟩ := List.forall_mem_cons.mp isOn
      exact (isIntersection_singleton isOnFirst).foldlM_inter single isOnRest

theorem exists_isIntersection
    (together : ¬∃ a ∈ given, ∃ b ∈ given, a.overlaps b = false) :
    ∃ result, Node.mergeAll .inter (given.map node) = .ok result.node ∧
      line.IsIntersection ranking given result := by
  rcases mergeAll_inter ranking single nonempty isOn with success | ⟨_, apart⟩
  · exact success
  · exact absurd apart together

/-- Ranges of which two do not overlap have no intersection. -/
theorem mergeAll_inter_of_apart
    (apart : ∃ a ∈ given, ∃ b ∈ given, a.overlaps b = false) :
    Node.mergeAll .inter (given.map node) =
      .error (.emptyIntersection line.field) := by
  obtain ⟨ranking⟩ := exists_ranking line.fieldType
  rcases mergeAll_inter ranking single nonempty isOn with
    ⟨result, _, isIntersection⟩ | ⟨fails, _⟩
  · obtain ⟨a, isA, b, isB, separate⟩ := apart
    rw [isIntersection.overlaps isA isB] at separate
    cases separate
  · exact fails

end Together

/-- Outcomes of intersections are alike if they are the same failure, or ranges
that are alike. -/
inductive AlikeOutcomes : Except Error Node → Except Error Node → Prop
  | error (error : Error) : AlikeOutcomes (.error error) (.error error)
  | range {a b : Range} (alike : a.Alike b) :
    AlikeOutcomes (.ok a.node) (.ok b.node)

/-- On a field with one value, the intersection of ranges on one line fails if
and only if two of them do not overlap, and then because it is empty. Otherwise
it is one range on the line, with a place for a value, that includes what all of
them include. Any other order leads to the same. -/
theorem intersection_of_perm
    (line : Range)
    (single : line.type.isArray = false)
    (nonempty : given ≠ [])
    (isOn : ∀ range ∈ given, line.IsOn range) :
    (∀ error, Node.mergeAll .inter (given.map node) = .error error ↔
      (∃ a ∈ given, ∃ b ∈ given, a.overlaps b = false) ∧
        error = .emptyIntersection line.field) ∧
    (∀ tree, Node.mergeAll .inter (given.map node) = .ok tree →
      ∃ result : Range, tree = result.node ∧ line.IsOn result ∧
        ∀ value, value.isOf line.fieldType = true →
          result.includes value = given.all (·.includes value)) ∧
    ∀ others : List Range, others.Perm given →
      AlikeOutcomes (Node.mergeAll .inter (given.map node))
        (Node.mergeAll .inter (others.map node)) := by
  obtain ⟨ranking⟩ := exists_ranking line.fieldType
  have someOther : ∀ {others : List Range}, others.Perm given → others ≠ [] :=
    fun permutes none => nonempty (List.perm_nil.mp (none ▸ permutes.symm))
  have isOnOthers : ∀ {others : List Range}, others.Perm given →
      ∀ range ∈ others, line.IsOn range :=
    fun permutes range isOther => isOn range (permutes.subset isOther)
  by_cases apart : ∃ a ∈ given, ∃ b ∈ given, a.overlaps b = false
  · rw [mergeAll_inter_of_apart single nonempty isOn apart]
    refine ⟨fun error => ?_, nofun, fun others permutes => ?_⟩
    · exact ⟨fun same => ⟨apart, (Except.error.inj same).symm⟩, fun ⟨_, same⟩ =>
        same ▸ rfl⟩
    · rw [mergeAll_inter_of_apart single (someOther permutes)
        (isOnOthers permutes)
        (by simpa only [permutes.mem_iff] using apart)]
      exact .error _
  · obtain ⟨result, comes, isIntersection⟩ :=
      exists_isIntersection ranking single nonempty isOn apart
    rw [comes]
    refine ⟨fun error => ⟨nofun, fun ⟨isApart, _⟩ => absurd isApart apart⟩, ?_,
      ?_⟩
    · rintro _ ⟨⟩
      exact ⟨result, rfl, isIntersection.isOn, isIntersection.includes⟩
    · intro others permutes
      obtain ⟨other, comesOther, isOther⟩ :=
        exists_isIntersection ranking single (someOther permutes)
          (isOnOthers permutes)
          (by simpa only [permutes.mem_iff] using apart)
      rw [comesOther]
      exact .range (isIntersection.alike isOther fun _ => permutes.symm.mem_iff)

/-- Ages from one to five, over two, and up to four come to the ages over two
and up to four, in any order. -/
theorem intersection_of_perm_age :
    let line : Range := unbounded ⟨"age", ⟨.integer, false⟩, .one, false⟩
    let ages : List Range :=
      [(line.withLower .gte (.int 1)).withUpper .lt (.int 5),
        line.withLower .gt (.int 2), line.withUpper .lte (.int 4)]
    let result : Range := (line.withLower .gt (.int 2)).withUpper .lte (.int 4)
    Node.mergeAll .inter (ages.map node) = .ok result.node ∧
      (∀ value, value.isOf .integer = true →
        result.includes value = ages.all (·.includes value)) ∧
      ∀ others : List Range, others.Perm ages →
        AlikeOutcomes (.ok result.node)
          (Node.mergeAll .inter (others.map node)) := by
  intro line ages result
  have isOn : ∀ range ∈ ages, line.IsOn range := by
    simp only [ages, List.forall_mem_cons]
    refine ⟨?_, ?_, ?_, List.forall_mem_nil _⟩ <;>
      refine ⟨by decide, rfl, rfl, ⟨?_, ?_⟩, by decide⟩ <;> rintro _ ⟨⟩ <;> rfl
  obtain ⟨_, includes, orders⟩ :=
    intersection_of_perm line rfl (List.cons_ne_nil _ _) isOn
  have comes : Node.mergeAll .inter (ages.map node) = .ok result.node := by
    with_unfolding_all rfl
  obtain ⟨common, isCommon, _, included⟩ := includes result.node comes
  obtain rfl : result = common := node_injective isCommon
  rw [comes] at orders
  exact ⟨comes, included, orders⟩

end Range
end SearchQuery
