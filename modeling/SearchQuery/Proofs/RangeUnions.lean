import Mathlib.Data.List.Pairwise
import Mathlib.Data.Set.List
import SearchQuery.Proofs.RangeLines

/-!
# Unions of ranges

Ranges on one line that are united one after the other come to the ranges that
no two overlap, each within any family of ranges that do not overlap and that
cover what was given. So the order in which they are united does not matter.
Whether they are united in a group or as trees does not matter either.
-/

namespace SearchQuery

/-- Lists of which every element answers to one of the other list, and no two to
the same, answer to each other one by one in some order. -/
theorem exists_perm_forall₂
    {α β : Type}
    {answers : α → β → Prop}
    {first : List α}
    {second : List β}
    (left : ∀ a ∈ first, ∃ b ∈ second, answers a b)
    (right : ∀ b ∈ second, ∃ a ∈ first, answers a b)
    (apartLeft : first.Pairwise fun a other => ∀ b, answers a b →
      ¬answers other b)
    (apartRight : second.Pairwise fun b other => ∀ a, answers a b →
      ¬answers a other) :
    ∃ arranged : List β, arranged.Perm second ∧
      List.Forall₂ answers first arranged := by
  induction first generalizing second with
  | nil =>
      cases second with
      | nil => exact ⟨[], .nil, .nil⟩
      | cons b rest =>
          obtain ⟨_, isNone, _⟩ := right b List.mem_cons_self
          cases isNone
  | cons a rest hypothesis =>
      obtain ⟨b, isB, answersB⟩ := left a List.mem_cons_self
      obtain ⟨before, after, rfl⟩ := List.append_of_mem isB
      have permutes : (before ++ b :: after).Perm (b :: (before ++ after)) :=
        List.perm_middle
      obtain ⟨apartA, apartRest⟩ := List.pairwise_cons.mp apartLeft
      have apartSecond := (permutes.pairwise_iff
        fun {_ _} apart c answersC answersOther =>
          apart c answersOther answersC).mp apartRight
      obtain ⟨apartB, apartOthers⟩ := List.pairwise_cons.mp apartSecond
      have others : ∀ other ∈ rest, ∃ c ∈ before ++ after, answers other c := by
        intro other isOther
        obtain ⟨c, isC, answersC⟩ := left other (List.mem_cons_of_mem a isOther)
        rcases List.mem_cons.mp (permutes.subset isC) with rfl | isC
        · exact absurd answersC (apartA other isOther c answersB)
        · exact ⟨c, isC, answersC⟩
      have remaining : ∀ c ∈ before ++ after, ∃ other ∈ rest,
          answers other c := by
        intro c isC
        obtain ⟨other, isOther, answersC⟩ :=
          right c (permutes.symm.subset (List.mem_cons_of_mem b isC))
        rcases List.mem_cons.mp isOther with rfl | isOther
        · exact absurd answersC (apartB c isC other answersB)
        · exact ⟨other, isOther, answersC⟩
      obtain ⟨arranged, arranges, all⟩ :=
        hypothesis others remaining apartRest apartOthers
      exact ⟨b :: arranged, (arranges.cons b).trans permutes.symm,
        .cons answersB all⟩

namespace Range

variable {line a b range : Range}
  {given result others rest members : List Range}

/-- What permutes with trees of ranges are trees of ranges. -/
theorem exists_map_node_of_perm
    {ranges : List Range}
    {nodes : List Node}
    (permutes : nodes.Perm (ranges.map node)) :
    ∃ arranged : List Range, arranged.Perm ranges ∧
      nodes = arranged.map node := by
  have isMap : nodes ∈ Set.range (List.map node) := by
    rw [Set.range_list_map]
    intro member isMember
    obtain ⟨range, _, isNode⟩ := List.mem_map.mp (permutes.subset isMember)
    exact ⟨range, isNode⟩
  obtain ⟨arranged, rfl⟩ := isMap
  exact ⟨arranged, (List.map_perm_map_iff node_injective).mp permutes, rfl⟩

/-- Ranges coarsen given ones on a line: they include the same values, contain
the given ranges, and are no wider than any ranges that do not overlap and
contain the given ones. -/
structure Coarsens (line : Range) (given result : List Range) : Prop where
  isOnGiven : ∀ range ∈ given, line.IsOn range
  isOn : ∀ range ∈ result, line.IsOn range
  includes : ∀ value, value.isOf line.fieldType = true →
    result.any (·.includes value) = given.any (·.includes value)
  wide : ∀ range ∈ given, ∃ whole ∈ result, whole.contains range = true
  least : ∀ family : List Range, (∀ range ∈ family, line.IsOn range) →
    family.Pairwise Apart →
    (∀ range ∈ given, ∃ whole ∈ family, whole.contains range = true) →
      ∀ range ∈ result, ∃ whole ∈ family, whole.contains range = true

/-- Ranges are the union of given ones on a line: they coarsen them and do not
overlap. -/
structure IsUnion (line : Range) (given result : List Range) : Prop extends
    Coarsens line given result where
  apart : result.Pairwise Apart

/-- The order of ranges does not matter for whether they coarsen others. -/
theorem Coarsens.perm
    (coarsens : line.Coarsens given result)
    (permutes : others.Perm result) :
    line.Coarsens given others where
  isOnGiven := coarsens.isOnGiven
  isOn range isOther := coarsens.isOn range (permutes.subset isOther)
  includes value isValue :=
    permutes.any_eq.trans (coarsens.includes value isValue)
  wide range isGiven := by
    obtain ⟨whole, isWhole, contains⟩ := coarsens.wide range isGiven
    exact ⟨whole, permutes.symm.subset isWhole, contains⟩
  least family isOn apart wide range isOther :=
    coarsens.least family isOn apart wide range (permutes.subset isOther)

/-- Of ranges that do not overlap, only one contains a part of a range. -/
theorem eq_of_overlaps
    {family : List Range}
    (apart : family.Pairwise Apart)
    (isA : a ∈ family)
    (isB : b ∈ family)
    (overlap : a.overlaps b = true) :
    a = b := by
  by_contra differ
  have apartAB : Apart a b := apart.forall isA isB differ
  rw [apartAB.1] at overlap
  cases overlap

/-- Uniting two overlapping ranges coarsens what they coarsened. -/
theorem Coarsens.hull
    (coarsens : line.Coarsens given (a :: b :: rest))
    (overlap : a.overlaps b = true) :
    line.Coarsens given (a.hull b :: rest) := by
  obtain ⟨isOnA, isOnB, isOnRest⟩ : line.IsOn a ∧ line.IsOn b ∧ ∀ range ∈ rest,
      line.IsOn range := by
    simpa using coarsens.isOn
  obtain ⟨containsA, containsB⟩ := isOnA.contains_hull isOnB overlap
  have isOnHull := isOnA.hull isOnB overlap
  refine ⟨coarsens.isOnGiven, List.forall_mem_cons.mpr ⟨isOnHull, isOnRest⟩,
    ?_, ?_, ?_⟩
  · intro value isValue
    rw [← coarsens.includes value isValue, List.any_cons, List.any_cons,
      List.any_cons, isOnA.includes_hull isOnB overlap isValue, Bool.or_assoc]
  · intro range isGiven
    have isOnRange := coarsens.isOnGiven range isGiven
    obtain ⟨whole, isWhole, contains⟩ := coarsens.wide range isGiven
    simp only [List.mem_cons] at isWhole
    rcases isWhole with rfl | rfl | isRest
    · exact ⟨_, List.mem_cons_self,
        isOnA.contains_trans isOnRange isOnHull containsA contains⟩
    · exact ⟨_, List.mem_cons_self,
        isOnB.contains_trans isOnRange isOnHull containsB contains⟩
    · exact ⟨whole, List.mem_cons_of_mem _ isRest, contains⟩
  · intro family isOn apart wide range isResult
    have least := coarsens.least family isOn apart wide
    rcases List.mem_cons.mp isResult with rfl | isRest
    · obtain ⟨wholeA, isWholeA, containsA⟩ := least a (by simp)
      obtain ⟨wholeB, isWholeB, containsB⟩ := least b (by simp)
      have isOnWhole := isOn wholeA isWholeA
      obtain rfl := eq_of_overlaps apart isWholeA isWholeB
        (isOnA.overlaps_of_contains isOnB isOnWhole (isOn wholeB isWholeB)
          overlap containsA
          containsB)
      exact ⟨wholeA, isWholeA,
        isOnA.contains_hull_of_contains isOnB isOnWhole overlap
          containsA containsB⟩
    · exact least range (by simp [isRest])

/-- A range besides those that coarsen given ones coarsens them with it. -/
theorem Coarsens.cons
    (coarsens : line.Coarsens given result)
    (isOnRange : line.IsOn range) :
    line.Coarsens (given ++ [range]) (range :: result) where
  isOnGiven := by
    simp only [List.mem_append, List.mem_singleton]
    rintro other (isGiven | rfl)
    · exact coarsens.isOnGiven other isGiven
    · exact isOnRange
  isOn := List.forall_mem_cons.mpr ⟨isOnRange, coarsens.isOn⟩
  includes value isValue := by
    rw [List.any_cons, List.any_append, coarsens.includes value isValue,
      List.any_cons, List.any_nil, Bool.or_false, Bool.or_comm]
  wide := by
    simp only [List.mem_append, List.mem_singleton]
    rintro other (isGiven | rfl)
    · obtain ⟨whole, isWhole, contains⟩ := coarsens.wide other isGiven
      exact ⟨whole, List.mem_cons_of_mem _ isWhole, contains⟩
    · exact ⟨other, List.mem_cons_self, isOnRange.overlaps_and_contains_self.2⟩
  least family isOn apart wide := by
    simp only [List.mem_append, List.mem_singleton] at wide
    refine List.forall_mem_cons.mpr ⟨wide range (.inr rfl), ?_⟩
    exact coarsens.least family isOn apart fun other isGiven =>
      wide other (.inl isGiven)

/-- A range on its way into a group of ranges. -/
def front (members : List Range) (range : Range) : Siblings.Front :=
  ⟨members.map node, .range range⟩

/-- A range on a line collapses with a member of a group that it overlaps. -/
theorem exists_of_collapses
    {next : Siblings.Front}
    (isOnMembers : ∀ member ∈ members, line.IsOn member)
    (isOnRange : line.IsOn range)
    (collapse : Siblings.Collapses .union (front members range) next) :
    ∃ position member, members[position]? = some member ∧
      member.overlaps range = true ∧
      next = front (members.eraseIdx position) (member.hull range) := by
  obtain ⟨isMember, merges⟩ := collapse
  rename_i position leaf result
  rw [front, List.getElem?_map, Option.map_eq_some_iff] at isMember
  obtain ⟨member, isMember, isLeaf⟩ := isMember
  cases isLeaf
  rw [front,
    (isOnMembers member (List.mem_of_getElem? isMember)).union_eq isOnRange]
    at merges
  cases overlap : member.overlaps range with
  | false =>
      rw [overlap] at merges
      cases merges
  | true =>
      rw [overlap] at merges
      cases merges
      refine ⟨position, member, isMember, overlap, ?_⟩
      rw [front, front, List.eraseIdx_map]

/-- A member of a group that a range on the line overlaps collapses with it. -/
theorem collapses_of_overlaps
    {member : Range}
    (isMember : member ∈ members)
    (isOnMember : line.IsOn member)
    (isOnRange : line.IsOn range)
    (overlap : member.overlaps range = true) :
    ∃ next, Siblings.Collapses .union (front members range) next := by
  obtain ⟨position, bound, isAt⟩ := List.getElem_of_mem isMember
  have isNode : (front members range).members[position]? =
      some member.node := by
    rw [front, List.getElem?_map, List.getElem?_eq_getElem bound, isAt]
    rfl
  have merges := isOnMember.union_eq isOnRange
  rw [overlap, if_pos rfl] at merges
  exact ⟨_, .collapse isNode merges⟩

/-- Collapses of ranges coarsen what they coarsened before. -/
theorem exists_of_run
    {last : Siblings.Front}
    (coarsens : line.Coarsens given (range :: members))
    (apart : members.Pairwise Apart)
    (run : Siblings.Run .union (front members range) last) :
    ∃ remaining whole, last = front remaining whole ∧
      line.Coarsens given (whole :: remaining) ∧
      remaining.Pairwise Apart := by
  induction run with
  | refl => exact ⟨members, range, rfl, coarsens, apart⟩
  | tail _ collapse hypothesis =>
      obtain ⟨remaining, whole, rfl, coarsens, apart⟩ := hypothesis
      obtain ⟨isOnWhole, isOnRemaining⟩ := List.forall_mem_cons.mp coarsens.isOn
      obtain ⟨position, member, isMember, overlap, rfl⟩ :=
        exists_of_collapses isOnRemaining isOnWhole collapse
      obtain ⟨bound, isMember⟩ := List.getElem?_eq_some_iff.mp isMember
      have permutes := List.getElem_cons_eraseIdx_perm bound
      rw [isMember] at permutes
      refine ⟨_, _, rfl, (coarsens.perm ?_).hull overlap,
        apart.sublist (List.eraseIdx_sublist ..)⟩
      exact (List.Perm.swap _ _ _).trans (permutes.cons whole)

/-- A range that is absorbed by a group leaves a union of what was given and the
range. -/
theorem IsUnion.exists_absorb
    (isUnion : line.IsUnion given result)
    (isOnRange : line.IsOn range) :
    ∃ next : List Range,
      Siblings.absorb .union (result.map node) range.node =
        .ok (next.map node) ∧
        line.IsUnion (given ++ [range]) next := by
  have coarsens := isUnion.toCoarsens.cons isOnRange
  cases settled : Siblings.absorb .union (result.map node) range.node with
  | error error =>
      obtain ⟨last, run, member, isMember, refused⟩ :=
        Siblings.exists_run_of_settle_error settled
      obtain ⟨remaining, whole, rfl, coarsens, _⟩ :=
        exists_of_run coarsens isUnion.apart run
      obtain ⟨isOnWhole, isOnRemaining⟩ := List.forall_mem_cons.mp coarsens.isOn
      obtain ⟨other, isOther, isNode⟩ := List.mem_map.mp isMember
      cases isNode
      rw [front, (isOnRemaining other isOther).union_eq isOnWhole] at refused
      cases refused
  | ok nodes =>
      obtain ⟨last, run, stuck, permutes⟩ :=
        Siblings.exists_run_of_settle_ok (by simp) settled
      obtain ⟨remaining, whole, rfl, coarsens, apart⟩ :=
        exists_of_run coarsens isUnion.apart run
      obtain ⟨isOnWhole, isOnRemaining⟩ := List.forall_mem_cons.mp coarsens.isOn
      have isApart : ∀ other ∈ remaining, Apart whole other := by
        intro other isOther
        have isOnOther := isOnRemaining other isOther
        have separate : other.overlaps whole = false := by
          rw [Bool.eq_false_iff]
          intro overlap
          obtain ⟨next, collapse⟩ :=
            collapses_of_overlaps isOther isOnOther isOnWhole overlap
          exact stuck next collapse
        exact ⟨(isOnWhole.overlaps_comm isOnOther).trans separate, separate⟩
      have permutes : nodes.Perm ((whole :: remaining).map node) := permutes
      obtain ⟨next, arranges, rfl⟩ := exists_map_node_of_perm permutes
      refine ⟨next, rfl, coarsens.perm arranges, ?_⟩
      exact (arranges.pairwise_iff And.symm).mpr
        (List.pairwise_cons.mpr ⟨isApart, apart⟩)

/-- Ranges of a line as alternatives. -/
def alternatives (line : Range) (ranges : List Range) : Clauses Node :=
  { Clauses.disjunction with should := [⟨.field line.field, ranges.map node⟩] }

/-- The tree of ranges of a line: a single range stands for itself, and several
ones are alternatives. -/
def tree (line : Range) : List Range → Node
  | [range] => range.node
  | ranges => .clauses (alternatives line ranges)

/-- Alternatives give way to a single range. -/
theorem node_alternatives (line : Range) (ranges : List Range) :
    (alternatives line ranges).node = tree line ranges := by
  have counted : (alternatives line ranges).count = ranges.length := by
    simp [alternatives, Clauses.count, Clauses.nodes, Bucket.nodes,
      Clauses.bucket, Clauses.disjunction, Clauses.empty]
  rw [Clauses.node, counted]
  rcases ranges with _ | ⟨first, _ | ⟨second, rest⟩⟩
  · rfl
  · rfl
  · rw [if_neg (by simp)]
    rfl

theorem absorb_nil (range : Range) :
    Siblings.absorb .union [] range.node = .ok [range.node] :=
  Siblings.settle_eq_of_apart (.inl rfl)

/-- A range comes into a group of one range by one merge. -/
theorem absorb_singleton (isOnA : line.IsOn a) (isOnB : line.IsOn b) :
    Siblings.absorb .union [a.node] b.node =
      .ok (if a.overlaps b then [(a.hull b).node] else [a.node, b.node]) := by
  have merges := isOnA.union_eq isOnB
  rw [Siblings.absorb]
  cases overlap : a.overlaps b with
  | true =>
      rw [overlap, if_pos rfl] at merges
      have sweeps : Siblings.sweep .union (.range b) [a.node] =
          .collapsed 0 (.range (a.hull b)) := by
        rw [Siblings.sweep, merges]
      rw [Siblings.settle_eq_of_collapsed sweeps]
      exact Siblings.settle_eq_of_apart (.inl rfl)
  | false =>
      rw [overlap, if_neg Bool.false_ne_true] at merges
      have sweeps : Siblings.sweep .union (.range b) [a.node] = .apart := by
        rw [Siblings.sweep, merges]
        rfl
      exact Siblings.settle_eq_of_apart (.inr sweeps)

/-- Two ranges on a line side by side are alternatives. -/
theorem either_eq (isOnA : line.IsOn a) (isOnB : line.IsOn b) :
    Node.either a.node b.node = tree line [a, b] := by
  have keyA : a.node.key = .field line.field :=
    congrArg MergeKey.field isOnA.parts.1
  have keyB : b.node.key = .field line.field :=
    congrArg MergeKey.field isOnB.parts.1
  have added : Node.either a.node b.node = .clauses
      { Clauses.disjunction with
        should :=
          Bucket.push b.node.key b.node
            (Bucket.push a.node.key a.node []) } := rfl
  rw [added, keyA, keyB]
  simp [tree, alternatives, Bucket.push, Bucket.set, Bucket.find?]

/-- Uniting a single range with a range is to absorb the range in the group of
the single one. -/
theorem union_single
    {first : Range}
    {next : List Range}
    (isOnFirst : line.IsOn first)
    (isOnRange : line.IsOn range)
    (absorbed : Siblings.absorb .union [first.node] range.node =
      .ok (next.map node)) :
    first.node.union range.node = .ok (tree line next) := by
  have unites :
      first.node.union range.node =
        Leaf.merge .union (.range first) (.range range) := by
    rw [Node.union]
    rfl
  rw [absorb_singleton isOnFirst isOnRange] at absorbed
  rw [unites, isOnFirst.union_eq isOnRange]
  cases overlap : first.overlaps range with
  | true =>
      rw [overlap] at absorbed
      have single : [first.hull range] = next :=
        List.map_injective_iff.mpr node_injective (Except.ok.inj absorbed)
      rw [← single]
      rfl
  | false =>
      rw [overlap] at absorbed
      have both : [first, range] = next :=
        List.map_injective_iff.mpr node_injective (Except.ok.inj absorbed)
      rw [← both, ← either_eq isOnFirst isOnRange]
      rfl

/-- Uniting alternatives with a range is to absorb the range in their group. -/
theorem union_alternatives
    {next : List Range}
    (isOnRange : line.IsOn range)
    (absorbed : Siblings.absorb .union (members.map node) range.node =
      .ok (next.map node)) :
    (Node.clauses (alternatives line members)).union range.node =
      .ok (tree line next) := by
  have sameKey : range.node.key = .field line.field :=
    congrArg MergeKey.field isOnRange.parts.1
  have unites : (Node.clauses (alternatives line members)).union range.node =
      (alternatives line members).addDisjuncts [range.node] .empty := by
    rw [Node.union, Node.same]
    · rfl
    all_goals simp
  have grows :
      Clauses.grownGroup .union ((alternatives line members).bucket .should)
      range.node = .ok (next.map node) := by
    rw [Clauses.grownGroup, sameKey]
    simpa [alternatives, Clauses.bucket, Bucket.find?] using absorbed
  have bucket : Bucket.set (.field line.field) (next.map node)
      ((alternatives line members).bucket .should) =
        [⟨.field line.field, next.map node⟩] := by
    simp [alternatives, Clauses.bucket, Bucket.set]
  rw [unites, Clauses.addDisjuncts, Clauses.absorbAll_singleton, Clauses.absorb,
    grows, sameKey]
  refine congrArg Except.ok (Eq.trans ?_ (node_alternatives line next))
  dsimp only
  rw [bucket]
  rfl

/-- Uniting the tree of some ranges with a range is to absorb the range in their
group. -/
theorem union_tree
    {next : List Range}
    (isOnMembers : ∀ member ∈ members, line.IsOn member)
    (nonempty : members ≠ [])
    (isOnRange : line.IsOn range)
    (absorbed : Siblings.absorb .union (members.map node) range.node =
      .ok (next.map node)) :
    (tree line members).union range.node = .ok (tree line next) := by
  rcases members with _ | ⟨first, _ | ⟨second, rest⟩⟩
  · exact absurd rfl nonempty
  · exact union_single (isOnMembers first List.mem_cons_self) isOnRange absorbed
  · exact union_alternatives isOnRange absorbed

/-- Ranges that come into a group and to a tree one after the other leave the
same ranges, the union of all. -/
theorem IsUnion.exists_foldlM
    (isUnion : line.IsUnion given result)
    (nonempty : result ≠ [])
    (isOnRest : ∀ range ∈ rest, line.IsOn range) :
    ∃ final : List Range, final ≠ [] ∧
      (rest.map node).foldlM (Siblings.absorb .union) (result.map node) =
        .ok (final.map node) ∧
        (rest.map node).foldlM (Node.merge .union) (tree line result) =
          .ok (tree line final) ∧
          line.IsUnion (given ++ rest) final := by
  induction rest generalizing given result with
  | nil =>
      exact ⟨result, nonempty, rfl, rfl, (List.append_nil given).symm ▸ isUnion⟩
  | cons range rest hypothesis =>
      obtain ⟨isOnRange, isOnRest⟩ := List.forall_mem_cons.mp isOnRest
      obtain ⟨next, absorbed, isNext⟩ := isUnion.exists_absorb isOnRange
      have unites := union_tree isUnion.isOn nonempty isOnRange absorbed
      have some : next ≠ [] := by
        rintro rfl
        obtain ⟨_, isNone, _⟩ := isNext.wide range (by simp)
        cases isNone
      obtain ⟨final, nonempty, absorbs, merges, isFinal⟩ :=
        hypothesis isNext some isOnRest
      refine ⟨final, nonempty, ?_, ?_,
        List.append_cons given range rest ▸ isFinal⟩
      · rw [List.map_cons, List.foldlM_cons, absorbed]
        exact absorbs
      · rw [List.map_cons, List.foldlM_cons, Node.merge, unites]
        exact merges

theorem isUnion_singleton (isOn : line.IsOn range) :
    line.IsUnion [range] [range] where
  toCoarsens := by
    have nothing : line.Coarsens [] [] :=
      ⟨by simp, by simp, fun _ _ => rfl, by simp, fun _ _ _ _ => by simp⟩
    exact nothing.cons isOn
  apart := List.pairwise_singleton Apart range

/-- Ranges on a line have a union, which is what they come to in a group and as
a tree. -/
theorem exists_isUnion
    (nonempty : given ≠ [])
    (isOn : ∀ range ∈ given, line.IsOn range) :
    ∃ result : List Range, result ≠ [] ∧
      Siblings.absorbAll .union (given.map node) = .ok (result.map node) ∧
        Node.mergeAll .union (given.map node) = .ok (tree line result) ∧
          line.IsUnion given result := by
  cases given with
  | nil => exact absurd rfl nonempty
  | cons first rest =>
      obtain ⟨isOnFirst, isOnRest⟩ := List.forall_mem_cons.mp isOn
      obtain ⟨result, some, absorbs, merges, isUnion⟩ :=
        (isUnion_singleton isOnFirst).exists_foldlM
          (List.cons_ne_nil first []) isOnRest
      refine ⟨result, some, ?_, merges, isUnion⟩
      rw [Siblings.absorbAll, List.map_cons, List.foldlM_cons, absorb_nil]
      exact absorbs

/-- The order of given ranges does not matter for their unions. -/
theorem IsUnion.perm_given
    (isUnion : line.IsUnion given result)
    (permutes : given.Perm others) :
    line.IsUnion others result where
  isOnGiven range isOther :=
    isUnion.isOnGiven range (permutes.symm.subset isOther)
  isOn := isUnion.isOn
  includes value isValue :=
    (isUnion.includes value isValue).trans permutes.any_eq
  wide range isOther := isUnion.wide range (permutes.symm.subset isOther)
  least family isOn apart wide :=
    isUnion.least family isOn apart fun range isGiven =>
      wide range (permutes.subset isGiven)
  apart := isUnion.apart

/-- Ranges on a line that contain each other. -/
structure Matches (line a b : Range) : Prop where
  isOnLeft : line.IsOn a
  isOnRight : line.IsOn b
  contains : a.contains b = true
  contained : b.contains a = true

/-- A range matches no two ranges that do not overlap. -/
theorem Matches.not_matches
    {other : Range}
    (matchesA : line.Matches a range)
    (apart : Apart a other) :
    ¬line.Matches other range := by
  intro matchesOther
  have isOnRange := matchesA.isOnRight
  have overlap := isOnRange.overlaps_of_contains isOnRange matchesA.isOnLeft
    matchesOther.isOnLeft
    isOnRange.overlaps_and_contains_self.1 matchesA.contains
      matchesOther.contains
  rw [apart.1] at overlap
  cases overlap

/-- Every range of a union matches one of any other union of the same ranges: it
lies in a range of the other union, and that in a range of the first, which
overlaps it and so is the same. -/
theorem IsUnion.exists_matches
    (isUnion : line.IsUnion given result)
    (isOther : line.IsUnion given others)
    (isRange : range ∈ result) :
    ∃ other ∈ others, line.Matches range other := by
  have isOnRange := isUnion.isOn range isRange
  obtain ⟨other, isMember, contains⟩ :=
    isUnion.least others isOther.isOn isOther.apart isOther.wide range isRange
  have isOnOther := isOther.isOn other isMember
  obtain ⟨whole, isWhole, containsOther⟩ :=
    isOther.least result isUnion.isOn isUnion.apart isUnion.wide other isMember
  have isOnWhole := isUnion.isOn whole isWhole
  obtain rfl : whole = range := by
    have overlap := isOnRange.overlaps_of_contains isOnRange isOnWhole isOnRange
      isOnRange.overlaps_and_contains_self.1
      (isOnOther.contains_trans isOnRange isOnWhole containsOther contains)
      isOnRange.overlaps_and_contains_self.2
    exact eq_of_overlaps isUnion.apart isWhole isRange overlap
  exact ⟨other, isMember, isOnRange, isOnOther, containsOther, contains⟩

/-- Unions of the same ranges are alike up to order. -/
theorem IsUnion.exists_forall₂_alike
    (isUnion : line.IsUnion given result)
    (isOther : line.IsUnion given others) :
    ∃ arranged : List Range, arranged.Perm others ∧
      List.Forall₂ Alike result arranged := by
  have swapped : ∀ {a b : Range}, line.Matches a b → line.Matches b a :=
    fun both => ⟨both.isOnRight, both.isOnLeft, both.contained, both.contains⟩
  have left : ∀ range ∈ result, ∃ other ∈ others, line.Matches range other :=
    fun _ => isUnion.exists_matches isOther
  have right : ∀ other ∈ others, ∃ range ∈ result,
      line.Matches range other := by
    intro other isMember
    obtain ⟨range, isRange, both⟩ := isOther.exists_matches isUnion isMember
    exact ⟨range, isRange, swapped both⟩
  obtain ⟨arranged, permutes, all⟩ := exists_perm_forall₂ left right
    (isUnion.apart.imp fun apart _ matchesA matchesOther =>
      matchesA.not_matches apart matchesOther)
    (isOther.apart.imp fun apart _ matchesB matchesOther =>
      (swapped matchesB).not_matches apart (swapped matchesOther))
  refine ⟨arranged, permutes, all.imp fun _ _ both => ?_⟩
  exact both.isOnLeft.alike_of_contains both.isOnRight both.contains
    both.contained

/-- The union of ranges on one line succeeds, in a group as well as from tree to
tree, and with the same ranges. No two of them overlap, and they include the
values that the given ranges do. Any other order of the given ranges leads to
ranges that are alike. -/
theorem exists_union_of_perm
    (line : Range)
    (nonempty : given ≠ [])
    (isOn : ∀ range ∈ given, line.IsOn range) :
    ∃ result : List Range, result ≠ [] ∧
      Siblings.absorbAll .union (given.map node) = .ok (result.map node) ∧
      Node.mergeAll .union (given.map node) = .ok (tree line result) ∧
      result.Pairwise Apart ∧
      (∀ value, value.isOf line.fieldType = true →
        result.any (·.includes value) = given.any (·.includes value)) ∧
      ∀ others : List Range, others.Perm given →
        ∃ otherResult arranged : List Range,
        Siblings.absorbAll .union (others.map node) =
          .ok (otherResult.map node) ∧
        Node.mergeAll .union (others.map node) = .ok (tree line otherResult) ∧
        arranged.Perm otherResult ∧ List.Forall₂ Alike result arranged := by
  obtain ⟨result, some, absorbs, merges, isUnion⟩ :=
    exists_isUnion nonempty isOn
  refine ⟨result, some, absorbs, merges, isUnion.apart, isUnion.includes, ?_⟩
  intro others permutes
  have isOnOthers : ∀ range ∈ others, line.IsOn range :=
    fun range isOther => isOn range (permutes.subset isOther)
  have someOther : others ≠ [] := fun none =>
    nonempty (List.perm_nil.mp (none ▸ permutes.symm))
  obtain ⟨otherResult, _, otherAbsorbs, otherMerges, isOther⟩ :=
    exists_isUnion someOther isOnOthers
  obtain ⟨arranged, arranges, alike⟩ :=
    isUnion.exists_forall₂_alike (isOther.perm_given permutes)
  exact ⟨otherResult, arranged, otherAbsorbs, otherMerges, arranges, alike⟩

/-- Ages from one to three, over four, and from two to five come to one range
over one, in any order. -/
theorem exists_union_of_perm_age :
    let line : Range := unbounded ⟨"age", ⟨.integer, false⟩, .one, false⟩
    let ages : List Range :=
      [(line.withLower .gte (.int 1)).withUpper .lt (.int 3),
        line.withLower .gt (.int 4),
        (line.withLower .gte (.int 2)).withUpper .lte (.int 5)]
    Siblings.absorbAll .union (ages.map node) =
      .ok [(line.withLower .gte (.int 1)).node] ∧
      ∀ others : List Range, others.Perm ages →
        ∃ otherResult arranged : List Range,
        Siblings.absorbAll .union (others.map node) =
          .ok (otherResult.map node) ∧
        Node.mergeAll .union (others.map node) = .ok (tree line otherResult) ∧
        arranged.Perm otherResult ∧
        List.Forall₂ Alike [line.withLower .gte (.int 1)] arranged := by
  intro line ages
  have isOn : ∀ range ∈ ages, line.IsOn range := by
    simp only [ages, List.forall_mem_cons]
    refine ⟨⟨by decide, rfl, rfl, ⟨?_, ?_⟩, by decide⟩,
      ⟨by decide, rfl, rfl, ⟨?_, ?_⟩, by decide⟩,
      ⟨by decide, rfl, rfl, ⟨?_, ?_⟩, by decide⟩, List.forall_mem_nil _⟩ <;>
      rintro _ ⟨⟩ <;> rfl
  obtain ⟨result, _, absorbs, _, _, _, orders⟩ :=
    exists_union_of_perm line (List.cons_ne_nil _ _) isOn
  have comes : Siblings.absorbAll .union (ages.map node) =
      .ok ([line.withLower .gte (.int 1)].map node) := by
    with_unfolding_all rfl
  obtain rfl : result = [line.withLower .gte (.int 1)] :=
    List.map_injective_iff.mpr node_injective
      (Except.ok.inj (absorbs.symm.trans comes))
  exact ⟨comes, orders⟩

end Range
end SearchQuery
