import Mathlib.Data.List.Basic
import Mathlib.Data.Nat.Find
import Mathlib.Order.Bounds.Defs
import SearchQuery.Proofs.Collapse
import SearchQuery.Proofs.Discipline

/-!
# Which members a leaf touches

A leaf that comes into a group collapses with members of it, each time with the
first that is left. The trail of a leaf lists where these members stood when the
leaf came. The leaf takes the first of these places, and all other members stay
as they are and in their order.

The positions of a trail are counted among all members, and the places that
sweeps find among those that are left. The two agree before the first position
of the trail, and no place behind it matters.
-/

namespace SearchQuery
namespace Siblings

/-- The member at a position is a leaf and merges with a leaf to one leaf. -/
def CollapsesAt (operation : MergeOperation) (members : List Node) (leaf : Leaf)
    (position : Nat) (result : Leaf) : Prop :=
  ∃ member, members[position]? = some (.leaf member) ∧
    Node.merge operation (.leaf member) (.leaf leaf) = .ok (.leaf result)

/-- A leaf collapses with the members at some positions, the latest of which
stands in front: each time with the first member that is left of those with
which it collapses. -/
inductive Trail (operation : MergeOperation) (members : List Node)
    (leaf : Leaf) :
    List Nat → Leaf → Prop
  | start : Trail operation members leaf [] leaf
  | collapse {positions : List Nat} {position : Nat} {current result : Leaf}
      (trail : Trail operation members leaf positions current)
      (first : IsLeast {left | left ∉ positions ∧
        ∃ merged, CollapsesAt operation members current left merged} position)
      (collapses : CollapsesAt operation members current position result) :
      Trail operation members leaf (position :: positions) result

/-- The members at the positions that a test picks, in their order. -/
def pick (test : Nat → Bool) (members : List Node) : List Node :=
  (members.zipIdx.filter fun entry => test entry.2).map Prod.fst

/-- The members at other positions than some. -/
def untouched (positions : List Nat) (members : List Node) : List Node :=
  pick (· ∉ positions) members

/-- The members before the first of some positions, a leaf, and the members
behind that position but for those at the others. Where there are no positions,
the leaf comes behind all members. -/
def settled (positions : List Nat) (members : List Node) (leaf : Leaf) :
    List Node :=
  match positions.min? with
  | some first =>
      members.take first ++
        .leaf leaf ::
          pick (fun later => first < later && later ∉ positions) members
  | none => members ++ [.leaf leaf]

variable {operation : MergeOperation} {members : List Node} {leaf : Leaf}

section Pick

variable {test other : Nat → Bool} {positions : List Nat} {position : Nat}
  {node : Node}

theorem mem_pick :
    node ∈ pick test members ↔
      ∃ position, members[position]? = some node ∧ test position = true := by
  simp [pick, List.mem_zipIdx_iff_getElem?]

/-- Tests that agree on the positions of the members pick the same. -/
theorem pick_congr
    (agree : ∀ position < members.length, test position = other position) :
    pick test members = pick other members := by
  unfold pick
  congr 1
  apply List.filter_congr
  intro entry isEntry
  exact agree entry.2 (by simpa using List.snd_lt_of_mem_zipIdx isEntry)

theorem pick_eq_self (all : ∀ position < members.length, test position = true) :
    pick test members = members := by
  rw [pick, List.filter_eq_self.mpr, List.zipIdx_map_fst]
  intro entry isEntry
  exact all entry.2 (by simpa using List.snd_lt_of_mem_zipIdx isEntry)

theorem length_pick_le (test : Nat → Bool) (members : List Node) :
    (pick test members).length ≤ members.length := by
  rw [pick, List.length_map]
  exact (List.length_filter_le _ _).trans_eq List.length_zipIdx

theorem isPrefix_pick_take (test : Nat → Bool) (members : List Node)
    (count : Nat) :
    pick test (members.take count) <+: pick test members := by
  conv_rhs => rw [← List.take_append_drop count members]
  unfold pick
  rw [List.zipIdx_append, List.filter_append, List.map_append]
  exact List.prefix_append _ _

/-- A test that picks all of the first positions picks no fewer members. -/
theorem le_length_pick
    {count : Nat}
    (bound : count ≤ members.length)
    (all : ∀ position < count, test position = true) :
    count ≤ (pick test members).length := by
  have whole : pick test (members.take count) = members.take count :=
    pick_eq_self fun position isBelow =>
      all position (isBelow.trans_le (List.length_take_le ..))
  have shorter := (isPrefix_pick_take test members count).length_le
  rw [whole, List.length_take] at shorter
  omega

/-- A pick consists of what is picked before a member, of the member itself, if
it is picked, and of what is picked behind it. -/
theorem pick_eq_append (test : Nat → Bool)
    (isAt : members[position]? = some node) :
    pick test members =
      pick test (members.take position) ++
        ((if test position then [node] else []) ++
          pick (fun later => position < later && test later) members) := by
  obtain ⟨bound, isAt⟩ := List.getElem?_eq_some_iff.mp isAt
  have cut :
      members = members.take position ++ node :: members.drop
        (position + 1) := by
    rw [← isAt, List.getElem_cons_drop, List.take_append_drop]
  have length : (members.take position).length = position :=
    List.length_take_of_le bound.le
  have entries : members.zipIdx = (members.take position).zipIdx ++
      (node, position) :: (members.drop (position + 1)).zipIdx
        (position + 1) := by
    conv_lhs => rw [cut]
    rw [List.zipIdx_append, length, Nat.zero_add, List.zipIdx_cons]
  have before : (members.take position).zipIdx.filter
      (fun entry => position < entry.2 && test entry.2) = [] := by
    rw [List.filter_eq_nil_iff]
    intro entry isEntry
    have := List.snd_lt_of_mem_zipIdx isEntry
    simp only [length] at this
    simp only [Bool.and_eq_true, decide_eq_true_eq]
    omega
  have behind : ((members.drop (position + 1)).zipIdx (position + 1)).filter
      (fun entry => position < entry.2 && test entry.2) =
        ((members.drop (position + 1)).zipIdx (position + 1)).filter
          fun entry => test entry.2 := by
    apply List.filter_congr
    intro entry isEntry
    have := List.le_snd_of_mem_zipIdx isEntry
    rw [decide_eq_true (by omega), Bool.true_and]
  unfold pick
  rw [entries, List.filter_append, List.filter_append, before, List.filter_cons,
    List.filter_cons, behind, List.map_append]
  cases picked : test position <;> simp [picked]

end Pick

section Untouched

variable {positions : List Nat} {position : Nat} {node : Node}

theorem untouched_nil (members : List Node) : untouched [] members = members :=
  pick_eq_self (by simp)

/-- A member that is still untouched stands among the others of which this
holds: behind those from before its position, and in front of those from behind
it. -/
theorem untouched_eq_append
    (isAt : members[position]? = some node)
    (isLeft : position ∉ positions) :
    untouched positions members =
      untouched positions (members.take position) ++
        node ::
          pick (fun later =>
            position < later && later ∉ positions) members := by
  rw [untouched, pick_eq_append _ isAt]
  simp [isLeft, untouched]

/-- A member that is touched as well is missing from those that are
untouched. -/
theorem untouched_cons
    (isAt : members[position]? = some node) :
    untouched (position :: positions) members =
      untouched positions (members.take position) ++
        pick (fun later => position < later && later ∉ positions) members := by
  rw [untouched, pick_eq_append _ isAt]
  have before : pick (· ∉ position :: positions) (members.take position) =
      untouched positions (members.take position) := by
    apply pick_congr
    intro earlier isEarlier
    have isBefore : earlier < position :=
      isEarlier.trans_le (List.length_take_le ..)
    simp [Nat.ne_of_lt isBefore]
  have behind :
      pick (fun later => position < later && later ∉ position :: positions)
        members =
      pick (fun later => position < later && later ∉ positions) members := by
    apply pick_congr
    intro later _
    by_cases isLater : position < later
    · simp [isLater, Nat.ne_of_gt isLater]
    · simp [isLater]
  rw [before, behind]
  simp

/-- A position before the first of some positions is none of them. -/
theorem notMem_of_lt_min?
    {first earlier : Nat}
    (least : positions.min? = some first)
    (isEarlier : earlier < first) :
    earlier ∉ positions := by
  intro isIn
  have := (List.min?_eq_some_iff.mp least).2 earlier isIn
  omega

/-- The earlier of a position and the first of some positions does not change if
the position is counted among the members that are untouched. -/
theorem elim_min_length_untouched (bound : position ≤ members.length) :
    positions.min?.elim (untouched positions (members.take position)).length
        (min (untouched positions (members.take position)).length) =
      positions.min?.elim position (min position) := by
  have inside : (members.take position).length = position :=
    List.length_take_of_le bound
  have below :
      (untouched positions (members.take position)).length ≤ position :=
    (length_pick_le _ _).trans_eq inside
  cases least : positions.min? with
  | none =>
      rw [List.min?_eq_none_iff.mp least, untouched_nil, inside]
  | some first =>
      have above :
          min position first ≤
            (untouched positions (members.take position)).length := by
        apply le_length_pick (by omega)
        intro earlier isEarlier
        exact decide_eq_true (notMem_of_lt_min? least (by omega))
      simp only [Option.elim]
      omega

theorem place_append (before behind : List Node) (leaf : Leaf) :
    place (before ++ behind) leaf (some before.length) =
      before ++ .leaf leaf :: behind :=
  List.modifyTailIdx_add _ 0 _ _

/-- Among the members that are untouched, a leaf is put where the first of the
others stood. -/
theorem place_untouched
    (inside : ∀ position ∈ positions, position < members.length) :
    place (untouched positions members) leaf positions.min? =
      settled positions members leaf := by
  unfold settled
  cases least : positions.min? with
  | none =>
      rw [List.min?_eq_none_iff.mp least, untouched_nil]
      rfl
  | some first =>
      have isFirst : first ∈ positions := List.min?_mem least
      have bound := inside first isFirst
      have length : (members.take first).length = first :=
        List.length_take_of_le bound.le
      have before : pick (· ∉ positions) (members.take first) =
          members.take first := by
        apply pick_eq_self
        intro earlier isEarlier
        exact decide_eq_true (notMem_of_lt_min? least (by omega))
      have whole : untouched positions members = members.take first ++
          pick (fun later => first < later && later ∉ positions) members := by
        rw [untouched,
          pick_eq_append _ (List.getElem?_eq_getElem bound), before]
        simp [isFirst]
      rw [whole]
      have placed := place_append (members.take first)
        (pick (fun later => first < later && later ∉ positions) members) leaf
      rwa [length] at placed

end Untouched

/-- A leaf that collapses with the first member that it can collapse with is
settled among the others, in view of one more position that it has touched: the
first position in the list is that of the first member in the sweep. -/
theorem settle_untouched
    {positions : List Nat}
    {position : Nat}
    {current result : Leaf}
    (first : IsLeast {left | left ∉ positions ∧
      ∃ merged, CollapsesAt operation members current left merged} position)
    (collapses : CollapsesAt operation members current position result) :
    settle operation (untouched positions members) current positions.min? =
      settle operation (untouched (position :: positions) members) result
        (position :: positions).min? := by
  obtain ⟨⟨isLeft, -⟩, least⟩ := first
  obtain ⟨member, isAt, merges⟩ := collapses
  rw [Node.merge_leaf] at merges
  have bound : position ≤ members.length :=
    (List.getElem?_eq_some_iff.mp isAt).1.le
  have whole := untouched_eq_append isAt isLeft
  have apart : ∀ other, .leaf other ∈
      untouched positions (members.take position) →
      ∀ found, Leaf.merge operation other current ≠ .ok (.leaf found) := by
    intro other isOther found merged
    obtain ⟨earlier, isEarlier, stays⟩ := mem_pick.mp isOther
    rw [List.getElem?_take] at isEarlier
    split at isEarlier
    · have := least ⟨of_decide_eq_true stays, found, other, isEarlier,
        (Node.merge_leaf ..).trans merged⟩
      omega
    · cases isEarlier
  have found : sweep operation current (untouched positions members) =
      .collapsed
        (untouched positions (members.take position)).length result := by
    rw [whole]
    exact sweep_append_eq_collapsed apart merges
  have erased : (untouched positions members).eraseIdx
      (untouched positions (members.take position)).length =
        untouched (position :: positions) members := by
    rw [whole, untouched_cons isAt, List.eraseIdx_append_of_length_le le_rfl,
      Nat.sub_self]
    rfl
  rw [settle_eq_of_collapsed found, erased, elim_min_length_untouched bound,
    List.min?_cons]

namespace Trail

variable {positions : List Nat} {last : Leaf}

theorem nodup (trail : Trail operation members leaf positions last) :
    positions.Nodup := by
  induction trail with
  | start => exact .nil
  | collapse _ first _ hypothesis =>
      exact List.nodup_cons.mpr ⟨first.1.1, hypothesis⟩

/-- The members that a leaf collapses with are leaves. -/
theorem exists_leaf
    {position : Nat}
    (trail : Trail operation members leaf positions last)
    (isTouched : position ∈ positions) :
    ∃ member, members[position]? = some (.leaf member) := by
  induction trail with
  | start => cases isTouched
  | collapse _ _ collapses hypothesis =>
      rcases List.mem_cons.mp isTouched with isLatest | isEarlier
      · obtain ⟨member, isAt, -⟩ := collapses
        exact ⟨member, isLatest ▸ isAt⟩
      · exact hypothesis isEarlier

/-- A leaf that comes into a group is settled as what has become of it, among
the members that it has left. -/
theorem absorb_eq (trail : Trail operation members leaf positions last) :
    absorb operation members (.leaf leaf) =
      settle operation (untouched positions members) last positions.min? := by
  induction trail with
  | start =>
      rw [untouched_nil]
      rfl
  | collapse _ first collapses hypothesis =>
      rw [hypothesis, settle_untouched first collapses]

/-- A trail goes on until no member that is left collapses with the leaf, since
each collapse leaves one member less. -/
theorem exists_ended (trail : Trail operation members leaf positions last) :
    ∃ positions last, Trail operation members leaf positions last ∧
      ∀ position ∉ positions, ∀ merged,
        ¬CollapsesAt operation members last position merged := by
  classical
  induction count : (untouched positions members).length
    using Nat.strong_induction_on
    generalizing positions last with
  | _ count hypothesis =>
      by_cases more : ∃ position, position ∉ positions ∧
          ∃ merged, CollapsesAt operation members last position merged
      · obtain ⟨isLeft, merged, collapses⟩ := Nat.find_spec more
        have next :=
          trail.collapse ⟨Nat.find_spec more,
            fun _ => Nat.find_min' more⟩ collapses
        obtain ⟨member, isAt, -⟩ := collapses
        refine hypothesis _ ?_ next rfl
        rw [← count, untouched_eq_append isAt isLeft, untouched_cons isAt]
        simp
      · refine ⟨positions, last, trail, fun position isLeft merged collapses =>
          ?_⟩
        exact more ⟨position, isLeft, merged, collapses⟩

/-- At the end of a trail the leaf takes the first place that it has touched, or
is refused by the members that are left. -/
theorem absorb_eq_of_ended
    (trail : Trail operation members leaf positions last)
    (ended : ∀ position ∉ positions, ∀ merged,
      ¬CollapsesAt operation members last position merged) :
    absorb operation members (.leaf leaf) =
      .ok (settled positions members last) ∨
      ∃ error, absorb operation members (.leaf leaf) = .error error ∧
        Refuses operation (untouched positions members) last error := by
  have inside : ∀ position ∈ positions, position < members.length := by
    intro position isTouched
    obtain ⟨member, isAt⟩ := trail.exists_leaf isTouched
    exact (List.getElem?_eq_some_iff.mp isAt).1
  rw [trail.absorb_eq]
  cases found : sweep operation last (untouched positions members) with
  | collapsed position merged =>
      obtain ⟨member, isAt, merges⟩ := exists_member_of_sweep_collapsed found
      obtain ⟨position, isAt, isLeft⟩ := mem_pick.mp (List.mem_of_getElem? isAt)
      exact absurd ⟨member, isAt, (Node.merge_leaf ..).trans merges⟩
        (ended position (of_decide_eq_true isLeft) merged)
  | refused error =>
      exact .inr ⟨error, settle_eq_of_refused found,
        sweep_eq_refused_iff.mp found⟩
  | untried =>
      exact .inl
        (by rw [settle_eq_of_apart (.inl found), place_untouched inside])
  | apart =>
      exact .inl
        (by rw [settle_eq_of_apart (.inr found), place_untouched inside])

end Trail

/-- A leaf that comes into a group collapses with some of its leaves, one after
the other, until no leaf that is left collapses with what it has become. That
takes the place of the first of them, and all other members, among them those
with clauses, stay as they are and in their order. The leaf is refused exactly
if all leaves that are left refuse it, and there are some. -/
theorem exists_trail_and_absorb_eq_error_iff (operation : MergeOperation)
    (members : List Node) (leaf : Leaf) :
    (∀ result, absorb operation members (.leaf leaf) = .ok result →
      ∃ positions last, Trail operation members leaf positions last ∧
        positions.Nodup ∧
        (∀ position content, members[position]? = some (.clauses content) →
          position ∉ positions) ∧
        (∀ position ∉ positions, ∀ merged,
          ¬CollapsesAt operation members last position merged) ∧
        result = settled positions members last) ∧
    ∀ error, absorb operation members (.leaf leaf) = .error error ↔
      ∃ positions last, Trail operation members leaf positions last ∧
        Refuses operation (untouched positions members) last error := by
  obtain ⟨positions, last, trail, ended⟩ :=
    (Trail.start : Trail operation members leaf [] leaf).exists_ended
  have outcome := trail.absorb_eq_of_ended ended
  constructor
  · intro result absorbed
    have operators : ∀ position content, members[position]? =
        some (.clauses content) →
        position ∉ positions := by
      intro position content isAt isTouched
      obtain ⟨member, isLeaf⟩ := trail.exists_leaf isTouched
      rw [isAt] at isLeaf
      cases isLeaf
    rcases outcome with settles | ⟨error, refused, -⟩
    · refine ⟨positions, last, trail, trail.nodup, operators, ended, ?_⟩
      exact Except.ok.inj (absorbed.symm.trans settles)
    · cases refused.symm.trans absorbed
  · intro error
    constructor
    · intro refused
      rcases outcome with settles | ⟨failure, fails, refuses⟩
      · cases settles.symm.trans refused
      · cases fails.symm.trans refused
        exact ⟨positions, last, trail, refuses⟩
    · rintro ⟨positions, last, trail, refuses⟩
      rw [trail.absorb_eq,
        settle_eq_of_refused (sweep_eq_refused_iff.mpr refuses)]

/-- Two ranges of sizes that overlap, and between them one that is apart from
both. -/
def sizeGroup : List Node :=
  [.leaf (.sizeBetween 1 5), .leaf (.sizeBetween 30 40),
    .leaf (.sizeBetween 4 12)]

/-- A range of sizes collapses with the last of three and then with the first,
of which it takes the place. A size that collapses with a range becomes one that
the other size refuses. -/
theorem exists_trail_and_absorb_eq_error_iff_sizes :
    (absorb .union sizeGroup (.leaf (.sizeBetween 10 11)) =
        .ok [.leaf (.sizeBetween 1 12), .leaf (.sizeBetween 30 40)] ∧
      ∃ positions last,
        Trail .union sizeGroup (.sizeBetween 10 11) positions last ∧
        positions.Nodup ∧
        (∀ position content, sizeGroup[position]? = some (.clauses content) →
          position ∉ positions) ∧
        (∀ position ∉ positions, ∀ merged,
          ¬CollapsesAt .union sizeGroup last position merged) ∧
        [.leaf (.sizeBetween 1 12), .leaf (.sizeBetween 30 40)] =
          settled positions sizeGroup last) ∧
    ∃ positions last,
      Trail .inter [.leaf (.sizeBetween 0 10), .leaf (.sizeIs 20)]
        (.sizeIs 5) positions last ∧
        Refuses .inter
          (untouched positions [.leaf (.sizeBetween 0 10),
            .leaf (.sizeIs 20)]) last
          (.valueConflict "size" "20" "5") := by
  have united : absorb .union sizeGroup (.leaf (.sizeBetween 10 11)) =
      .ok [.leaf (.sizeBetween 1 12), .leaf (.sizeBetween 30 40)] := by
    with_unfolding_all rfl
  have refused : absorb .inter [.leaf (.sizeBetween 0 10), .leaf (.sizeIs 20)]
      (.leaf (.sizeIs 5)) =
      .error (.valueConflict "size" "20" "5") := by
    with_unfolding_all rfl
  exact ⟨⟨united, (exists_trail_and_absorb_eq_error_iff _ _ _).1 _ united⟩,
    ((exists_trail_and_absorb_eq_error_iff _ _ _).2 _).mp refused⟩

end Siblings
end SearchQuery
