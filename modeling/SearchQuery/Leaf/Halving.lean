/-!
# Search by halving

The last of increasing members that is not above a mark is found by halving: a
middle member above the mark leaves the lower half, and any other leaves the
half that it begins. If all members are above the mark, the first is found.
-/

namespace SearchQuery
namespace Halving

variable {α : Type}

/-- The last member that is not above the mark, or else the first. -/
def floorOrFirst? (isAbove : α → Bool) : List α → Option α
  | [] => none
  | [only] => some only
  | first :: second :: rest =>
      let members := first :: second :: rest
      let half := members.length / 2
      if (members[half]?).any isAbove then
        floorOrFirst? isAbove (members.take (members.length - half))
      else floorOrFirst? isAbove (members.drop half)
termination_by members => members.length
decreasing_by
  all_goals
    simp only [List.length_take, List.length_drop, List.length_cons]
    omega

theorem mem_of_floorOrFirst?
    {isAbove : α → Bool}
    {members : List α}
    {member : α}
    (found : floorOrFirst? isAbove members = some member) :
    member ∈ members := by
  fun_induction floorOrFirst? isAbove members with
  | case1 => cases found
  | case2 only =>
      cases found
      exact List.mem_singleton_self _
  | case3 first second rest members half above hypothesis =>
      exact List.mem_of_mem_take (hypothesis found)
  | case4 first second rest members half notAbove hypothesis =>
      exact List.mem_of_mem_drop (hypothesis found)

section Cut

variable {isAbove : α → Bool} {front behind : List α} {target : α}

/-- The members above the mark are those behind the target. -/
theorem any_getElem?_append
    (below : ∀ member ∈ front, isAbove member = false)
    (reached : isAbove target = false)
    (above : ∀ member ∈ behind, isAbove member = true)
    {i : Nat}
    (inside : i < (front ++ target :: behind).length) :
    ((front ++ target :: behind)[i]?).any isAbove =
      decide (front.length < i) := by
  rcases Nat.lt_trichotomy i front.length with before | same | after
  · rw [List.getElem?_append_left before, List.getElem?_eq_getElem before,
      Option.any_some, below _ (List.getElem_mem before)]
    simp [Nat.le_of_lt before]
  · subst same
    simp [reached]
  · obtain ⟨j, rfl⟩ := Nat.exists_eq_add_of_lt after
    have isBehind : j < behind.length := by simp at inside; omega
    have place : front.length + j + 1 - front.length = j + 1 := by omega
    rw [List.getElem?_append_right (by omega), place, List.getElem?_cons_succ,
      List.getElem?_eq_getElem isBehind, Option.any_some,
      above _ (List.getElem_mem isBehind)]
    exact (decide_eq_true (by omega)).symm

/-- The member in front of all that are above the mark is found. -/
theorem floorOrFirst?_eq_some
    (members : List α)
    (reached : isAbove target = false) :
    ∀ front behind, members = front ++ target :: behind →
      (∀ member ∈ front, isAbove member = false) →
      (∀ member ∈ behind, isAbove member = true) →
      floorOrFirst? isAbove members = some target := by
  fun_induction floorOrFirst? isAbove members with
  | case1 => simp
  | case2 only =>
      intro front behind whole _ _
      obtain ⟨-, rfl, -⟩ : front = [] ∧ target = only ∧ behind = [] := by
        simpa [List.singleton_eq_append_iff] using whole
      rfl
  | case3 first second rest members half isBehind hypothesis =>
      intro front behind whole below above
      have long : 2 ≤ members.length := by simp [members]
      change members = _ at whole
      have length := congrArg List.length whole
      rw [whole, any_getElem?_append below reached above (by omega),
        decide_eq_true_iff] at isBehind
      obtain ⟨few, isFew⟩ :
          ∃ few, members.length - half = front.length + (few + 1) :=
        ⟨members.length - half - front.length - 1, by omega⟩
      refine hypothesis front (behind.take few) ?_ below fun member isTaken =>
        above member (List.mem_of_mem_take isTaken)
      rw [isFew, whole, List.take_length_add_append, List.take_succ_cons]
  | case4 first second rest members half notBehind hypothesis =>
      intro front behind whole below above
      have long : 2 ≤ members.length := by simp [members]
      change members = _ at whole
      have length := congrArg List.length whole
      rw [whole, any_getElem?_append below reached above (by omega),
        decide_eq_true_iff, Nat.not_lt] at notBehind
      refine hypothesis (front.drop half) behind ?_ (fun member isLeft =>
        below member (List.mem_of_mem_drop isLeft)) above
      rw [whole, List.drop_append_of_le_length notBehind]

/-- Among increasing members the search finds one that is at the mark. -/
theorem floorOrFirst?_of_mem
    {less : α → α → Prop}
    {members : List α}
    (increasing : members.Pairwise less)
    (isMember : target ∈ members)
    (reached : isAbove target = false)
    (below : ∀ member ∈ members, less member target → isAbove member = false)
    (above : ∀ member ∈ members, less target member → isAbove member = true) :
    floorOrFirst? isAbove members = some target := by
  obtain ⟨front, behind, rfl⟩ := List.append_of_mem isMember
  obtain ⟨-, behindTarget, inFront⟩ := List.pairwise_append.mp increasing
  refine floorOrFirst?_eq_some _ reached front behind
    rfl (fun member isIn => ?_)
    fun member isIn => ?_
  · exact below member (List.mem_append_left _ isIn)
      (inFront member isIn target List.mem_cons_self)
  · exact above member (List.mem_append_right _ (List.mem_cons_of_mem _ isIn))
      ((List.pairwise_cons.mp behindTarget).1 member isIn)

end Cut

end Halving
end SearchQuery
