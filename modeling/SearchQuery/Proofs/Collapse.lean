import Mathlib.Data.List.Perm.Basic
import Mathlib.Logic.Relation
import SearchQuery.Proofs.Matching

/-!
# How a leaf comes into a group

A leaf collapses with one member after the other, and each collapse is one merge
of leaves. So whatever merges of leaves preserve holds of the group at the end,
and a leaf is refused only because a merge failed on the way. A sweep finds the
first member that collapses with the leaf, or that all leaves among the members
refuse it.
-/

namespace SearchQuery
namespace Siblings

/-- A leaf on its way into a group, with the members that it has not collapsed
with. -/
structure Front where
  members : List Node
  leaf : Leaf

/-- The nodes of a front: its members and the leaf. -/
def Front.nodes (front : Front) : List Node := .leaf front.leaf :: front.members

/-- The leaf of a front collapses with one of the members. -/
inductive Collapses (operation : MergeOperation) : Front → Front → Prop
  | collapse {front : Front} {position : Nat} {member result : Leaf}
      (isMember : front.members[position]? = some (.leaf member))
      (merged : Leaf.merge operation member front.leaf = .ok (.leaf result)) :
      Collapses operation front ⟨front.members.eraseIdx position, result⟩

/-- The leaf of a front collapses with members one after the other. -/
abbrev Run (operation : MergeOperation) : Front → Front → Prop :=
  Relation.ReflTransGen (Collapses operation)

variable {operation : MergeOperation} {members result : List Node} {leaf : Leaf}

/-- A leaf that collapses with a member gives way to what it collapses to. -/
theorem settle_eq_of_collapsed
    {slot : Option Nat}
    {position : Nat}
    {merged : Leaf}
    (found : sweep operation leaf members = .collapsed position merged) :
    settle operation members leaf slot =
      settle operation (members.eraseIdx position) merged
        (some (slot.elim position (min position))) := by
  rw [settle]
  split
  · rename_i found'
    rw [found] at found'
    cases found'
    rfl
  all_goals simp_all

/-- A leaf that stays apart from the members is put in its place. -/
theorem settle_eq_of_apart
    {slot : Option Nat}
    (found : sweep operation leaf members = .untried ∨
      sweep operation leaf members = .apart) :
    settle operation members leaf slot = .ok (place members leaf slot) := by
  rw [settle]
  split
  · simp_all
  · simp_all
  all_goals rfl

/-- A leaf that the members refuse is refused. -/
theorem settle_eq_of_refused
    {slot : Option Nat}
    {error : Error}
    (found : sweep operation leaf members = .refused error) :
    settle operation members leaf slot = .error error := by
  rw [settle]
  split
  all_goals simp_all

/-- The member that a sweep finds merges with the leaf to a leaf. -/
theorem exists_member_of_sweep_collapsed
    {position : Nat}
    {merged : Leaf}
    (found : sweep operation leaf members = .collapsed position merged) :
    ∃ member, members[position]? = some (.leaf member) ∧
      Leaf.merge operation member leaf = .ok (.leaf merged) := by
  induction members generalizing position with
  | nil => cases found
  | cons first rest hypothesis =>
      cases first with
      | clauses content =>
          rw [sweep] at found
          split at found
          · rename_i equation
            cases found
            exact hypothesis equation
          · rename_i other
            exact absurd found (other _ _)
      | leaf content =>
          rw [sweep] at found
          split at found
          · rename_i merges
            cases found
            exact ⟨content, rfl, merges⟩
          · split at found
            · rename_i equation
              cases found
              exact hypothesis equation
            · cases found
          · split at found
            · rename_i equation
              cases found
              exact hypothesis equation
            · cases found
            · rename_i other _
              exact absurd found (other _ _)

/-- A sweep finds the first member that collapses with the leaf. -/
theorem sweep_append_eq_collapsed
    {before behind : List Node}
    {member merged : Leaf}
    (apart : ∀ other, .leaf other ∈ before →
      ∀ found, Leaf.merge operation other leaf ≠ .ok (.leaf found))
    (merges : Leaf.merge operation member leaf = .ok (.leaf merged)) :
    sweep operation leaf (before ++ .leaf member :: behind) =
      .collapsed before.length merged := by
  induction before with
  | nil => rw [List.nil_append, sweep, merges]; rfl
  | cons first rest hypothesis =>
      have sweeps :=
        hypothesis fun other isOther =>
          apart other (List.mem_cons_of_mem _ isOther)
      rw [List.cons_append]
      cases first with
      | clauses content => rw [sweep, sweeps]; rfl
      | leaf content =>
          cases outcome : Leaf.merge operation content leaf with
          | ok node =>
              cases node with
              | leaf found =>
                  exact absurd outcome (apart content List.mem_cons_self found)
              | clauses both => rw [sweep, outcome, sweeps]; rfl
          | error error => rw [sweep, outcome, sweeps]; rfl

/-- A sweep tries nothing where there are no leaves among the members. -/
theorem sweep_eq_untried_iff :
    sweep operation leaf members = .untried ↔
      ∀ node ∈ members, node.isOperator = true := by
  induction members with
  | nil => simp [sweep]
  | cons first rest hypothesis =>
      rw [List.forall_mem_cons, ← hypothesis]
      cases first with
      | clauses content =>
          rw [sweep]
          split
          · simp_all
          · simp [Node.isOperator]
      | leaf content =>
          simp only [Node.isOperator, Bool.false_eq_true, false_and, iff_false]
          rw [sweep]
          split
          · simp
          · split <;> simp
          · split <;> simp_all

/-- There are leaves among the members, and all of them fail to merge with a
leaf, the last of them with an error. -/
def Refuses (operation : MergeOperation) (members : List Node) (leaf : Leaf)
    (error : Error) :
    Prop :=
  (∀ member, .leaf member ∈ members →
      ∃ failure, Node.merge operation (.leaf member) (.leaf leaf) =
        .error failure) ∧
    ∃ before last after, members = before ++ .leaf last :: after ∧
      (∀ node ∈ after, node.isOperator = true) ∧
      Node.merge operation (.leaf last) (.leaf leaf) = .error error

section Refuses

variable {rest : List Node} {error : Error}

/-- Clauses in front do not count among the members that refuse a leaf. -/
theorem refuses_cons_clauses
    {content : Clauses Node} :
    Refuses operation (.clauses content :: rest) leaf error ↔
      Refuses operation rest leaf error := by
  constructor
  · rintro ⟨fail, before, last, after, cut, operators, merges⟩
    refine ⟨fun member isMember =>
      fail member (List.mem_cons_of_mem _ isMember), ?_⟩
    rcases List.cons_eq_append_iff.mp cut with ⟨-, ⟨⟩⟩ | ⟨before, -, cut⟩
    exact ⟨before, last, after, cut, operators, merges⟩
  · rintro ⟨fail, before, last, after, rfl, operators, merges⟩
    refine ⟨fun member isMember => fail member (by simpa using isMember), ?_⟩
    exact ⟨.clauses content :: before, last, after, rfl, operators, merges⟩

/-- A leaf in front refuses a leaf with those behind it, and alone if there are
none. -/
theorem refuses_cons_leaf
    {content : Leaf} :
    Refuses operation (.leaf content :: rest) leaf error ↔
      ∃ failure, Leaf.merge operation content leaf = .error failure ∧
        (Refuses operation rest leaf error ∨
          (∀ node ∈ rest, node.isOperator = true) ∧ failure = error) := by
  constructor
  · rintro ⟨fail, before, last, after, cut, operators, merges⟩
    obtain ⟨failure, fails⟩ := fail content List.mem_cons_self
    rw [Node.merge_leaf] at fails
    refine ⟨failure, fails, ?_⟩
    rcases List.cons_eq_append_iff.mp cut with ⟨-, cut⟩ | ⟨before, -, cut⟩
    · cases cut
      rw [Node.merge_leaf, fails] at merges
      cases merges
      exact .inr ⟨operators, rfl⟩
    · exact .inl
        ⟨fun member isMember => fail member (List.mem_cons_of_mem _ isMember),
        before, last, after, cut, operators, merges⟩
  · rintro ⟨failure, fails, later⟩
    rw [← Node.merge_leaf] at fails
    have first : ∀ member, Node.leaf member = .leaf content →
        ∃ failure, Node.merge operation (.leaf member) (.leaf leaf) =
          .error failure := by
      rintro _ ⟨⟩
      exact ⟨failure, fails⟩
    rcases later with
      ⟨fail, before, last, after, rfl, operators, merges⟩ | ⟨operators, rfl⟩
    · refine ⟨?_, .leaf content :: before, last, after, rfl, operators, merges⟩
      exact fun member isMember =>
        (List.mem_cons.mp isMember).elim (first member) (fail member)
    · refine ⟨?_, [], content, rest, rfl, operators, fails⟩
      exact fun member isMember =>
        (List.mem_cons.mp isMember).elim (first member) fun isLater =>
        absurd (operators _ isLater) Bool.false_ne_true

/-- A sweep is refused with the error with which the members refuse the leaf. -/
theorem sweep_eq_refused_iff :
    sweep operation leaf members = .refused error ↔
      Refuses operation members leaf error := by
  induction members with
  | nil => simp [sweep, Refuses]
  | cons first rest hypothesis =>
      cases first with
      | clauses content =>
          rw [refuses_cons_clauses, ← hypothesis, sweep]
          split <;> simp_all
      | leaf content =>
          rw [refuses_cons_leaf, ← hypothesis, ← sweep_eq_untried_iff, sweep]
          cases Leaf.merge operation content leaf with
          | ok node =>
              cases node with
              | leaf found => simp
              | clauses both => cases sweep operation leaf rest <;> simp
          | error failure => cases sweep operation leaf rest <;> simp

end Refuses

/-- A sweep that is refused has met a member whose merge with the leaf fails
so. -/
theorem exists_member_of_sweep_refused
    {error : Error}
    (refused : sweep operation leaf members = .refused error) :
    ∃ member, .leaf member ∈ members ∧ Leaf.merge operation member leaf =
      .error error := by
  obtain ⟨-, before, last, after, rfl, -, fails⟩ :=
    sweep_eq_refused_iff.mp refused
  exact ⟨last, by simp, (Node.merge_leaf ..).symm.trans fails⟩

/-- A sweep finds a member that collapses with the leaf where there is one. -/
theorem exists_sweep_eq_collapsed
    {member merged : Leaf}
    (isMember : .leaf member ∈ members)
    (merges : Leaf.merge operation member leaf = .ok (.leaf merged)) :
    ∃ position found, sweep operation leaf members =
      .collapsed position found := by
  induction members with
  | nil => cases isMember
  | cons first rest hypothesis =>
      cases first with
      | clauses content =>
          obtain ⟨position, found, sweeps⟩ :=
            hypothesis (List.mem_of_ne_of_mem Node.noConfusion isMember)
          rw [sweep, sweeps]
          exact ⟨_, _, rfl⟩
      | leaf content =>
          have later :
              (∀ found, Leaf.merge operation content leaf ≠ .ok (.leaf found)) →
              ∃ position found, sweep operation leaf rest =
                .collapsed position found := by
            intro apart
            refine hypothesis (List.mem_of_ne_of_mem ?_ isMember)
            rintro ⟨⟩
            exact apart merged merges
          cases first : Leaf.merge operation content leaf with
          | ok node =>
              cases node with
              | leaf found =>
                  rw [sweep, first]
                  exact ⟨0, found, rfl⟩
              | clauses both =>
                  obtain ⟨position, found, sweeps⟩ := later (by simp [first])
                  rw [sweep, first, sweeps]
                  exact ⟨_, _, rfl⟩
          | error error =>
              obtain ⟨position, found, sweeps⟩ := later (by simp [first])
              rw [sweep, first, sweeps]
              exact ⟨_, _, rfl⟩

/-- The leaf of a front collapses with no member. -/
def Front.IsStuck (operation : MergeOperation) (front : Front) : Prop :=
  ∀ next, ¬Collapses operation front next

/-- A front is stuck where a sweep finds no member that collapses with its
leaf. -/
theorem isStuck_of_sweep_ne_collapsed
    (none : ∀ position merged, sweep operation leaf members ≠
      .collapsed position merged) :
    Front.IsStuck operation ⟨members, leaf⟩ := by
  rintro _ ⟨isMember, merges⟩
  obtain ⟨position, found, sweeps⟩ :=
    exists_sweep_eq_collapsed (List.mem_of_getElem? isMember) merges
  exact none position found sweeps

theorem place_perm
    {slot : Option Nat}
    (inside : ∀ position ∈ slot, position ≤ members.length) :
    (place members leaf slot).Perm (.leaf leaf :: members) := by
  cases slot with
  | none => exact List.perm_append_comm
  | some position => exact List.perm_insertIdx _ _ (inside position rfl)

/-- Settling a leaf runs it through collapses until none is left, and then puts
it among the members that remain. -/
theorem exists_run_of_settle_ok
    {slot : Option Nat}
    (inside : ∀ position ∈ slot, position ≤ members.length)
    (settled : settle operation members leaf slot = .ok result) :
    ∃ last, Run operation ⟨members, leaf⟩ last ∧ last.IsStuck operation ∧
      result.Perm last.nodes := by
  fun_induction settle operation members leaf slot with
  | case1 members leaf slot position merged found hypothesis =>
      obtain ⟨member, isMember, merges⟩ :=
        exists_member_of_sweep_collapsed found
      have bound := sweep_position_lt found
      obtain ⟨last, run, stuck, permutes⟩ := hypothesis (by
        intro next isNext
        cases isNext
        rw [List.length_eraseIdx, if_pos bound]
        cases slot <;> simp only [Option.elim] <;> omega) settled
      exact ⟨last, run.head (.collapse isMember merges), stuck, permutes⟩
  | case2 => cases settled
  | case3 members leaf slot found =>
      cases settled
      have stuck : Front.IsStuck operation ⟨members, leaf⟩ :=
        isStuck_of_sweep_ne_collapsed fun _ _ collapsed => by
          simp [found] at collapsed
      exact ⟨⟨members, leaf⟩, .refl, stuck, place_perm inside⟩
  | case4 members leaf slot found =>
      cases settled
      have stuck : Front.IsStuck operation ⟨members, leaf⟩ :=
        isStuck_of_sweep_ne_collapsed fun _ _ collapsed => by
          simp [found] at collapsed
      exact ⟨⟨members, leaf⟩, .refl, stuck, place_perm inside⟩

/-- A leaf that is refused was run through collapses to a leaf whose merge with
a member that remains fails. -/
theorem exists_run_of_settle_error
    {slot : Option Nat}
    {error : Error}
    (refused : settle operation members leaf slot = .error error) :
    ∃ last, Run operation ⟨members, leaf⟩ last ∧
      ∃ member, .leaf member ∈ last.members ∧
        Leaf.merge operation member last.leaf = .error error := by
  fun_induction settle operation members leaf slot with
  | case1 members leaf slot position merged found hypothesis =>
      obtain ⟨member, isMember, merges⟩ :=
        exists_member_of_sweep_collapsed found
      obtain ⟨last, run, failure⟩ := hypothesis refused
      exact ⟨last, run.head (.collapse isMember merges), failure⟩
  | case2 members leaf slot failure found =>
      cases refused
      exact ⟨⟨members, leaf⟩, .refl, exists_member_of_sweep_refused found⟩
  | case3 => cases refused
  | case4 => cases refused

/-- Merges of leaves preserve a property of nodes and join the verdicts on
them. -/
def Preserves (operation : MergeOperation) (property : Node → Prop)
    (verdict : Node → Bool) :
    Prop :=
  ∀ a b merged, property (.leaf a) → property (.leaf b) →
    Leaf.merge operation a b = .ok (.leaf merged) →
      property (.leaf merged) ∧
        verdict (.leaf merged) =
          operation.join (verdict (.leaf a)) (verdict (.leaf b))

section Invariant

variable {property : Node → Prop} {verdict : Node → Bool}
  (preserves : Preserves operation property verdict)
include preserves

/-- A collapse preserves what merges of leaves preserve. -/
theorem Collapses.invariant
    {front next : Front}
    (collapse : Collapses operation front next)
    (given : ∀ node ∈ front.nodes, property node) :
    (∀ node ∈ next.nodes, property node) ∧
      operation.joinAll (next.nodes.map verdict) =
        operation.joinAll (front.nodes.map verdict) := by
  obtain ⟨isMember, merged⟩ := collapse
  rename_i position member result
  obtain ⟨bound, isMember⟩ := List.getElem?_eq_some_iff.mp isMember
  have permutes := List.getElem_cons_eraseIdx_perm bound
  rw [isMember] at permutes
  obtain ⟨givenLeaf, givenMembers⟩ := List.forall_mem_cons.mp given
  have givenMember :=
    givenMembers (.leaf member) (permutes.subset List.mem_cons_self)
  obtain ⟨resultHas, joins⟩ :=
    preserves member front.leaf result givenMember givenLeaf merged
  constructor
  · apply List.forall_mem_cons.mpr ⟨resultHas, ?_⟩
    intro node isNode
    exact givenMembers node (permutes.subset (List.mem_cons_of_mem _ isNode))
  · have before := operation.joinAll_perm
      ((permutes.map verdict).cons (verdict (.leaf front.leaf)))
    rw [Front.nodes, Front.nodes, List.map_cons, List.map_cons, ← before,
      List.map_cons, operation.joinAll_cons, operation.joinAll_cons,
      operation.joinAll_cons, joins]
    cases operation
    · exact (Bool.or_assoc _ _ _).trans (Bool.or_left_comm _ _ _)
    · exact (Bool.and_assoc _ _ _).trans (Bool.and_left_comm _ _ _)

/-- A run preserves what merges of leaves preserve. -/
theorem Run.invariant
    {front last : Front}
    (run : Run operation front last)
    (given : ∀ node ∈ front.nodes, property node) :
    (∀ node ∈ last.nodes, property node) ∧
      operation.joinAll (last.nodes.map verdict) =
        operation.joinAll (front.nodes.map verdict) := by
  induction run with
  | refl => exact ⟨given, rfl⟩
  | tail _ collapse hypothesis =>
      obtain ⟨has, joins⟩ := collapse.invariant preserves hypothesis.1
      exact ⟨has, joins.trans hypothesis.2⟩

variable {node : Node}
  (given : ∀ member ∈ members, property member) (givenNode : property node)
include given givenNode

/-- A node that is absorbed joins its verdict with those of the members. -/
theorem absorb_ok (absorbed : absorb operation members node = .ok result) :
    result ≠ [] ∧ (∀ member ∈ result, property member) ∧
      operation.joinAll (result.map verdict) =
        operation.join (operation.joinAll (members.map verdict))
          (verdict node) := by
  cases node with
  | clauses content =>
      cases absorbed
      refine ⟨by simp, ?_, ?_⟩
      · intro member isMember
        rcases List.mem_append.mp isMember with earlier | added
        · exact given member earlier
        · exact List.mem_singleton.mp added ▸ givenNode
      · rw [List.map_append, operation.joinAll_append]
        cases operation <;> simp [MergeOperation.joinAll]
  | leaf leaf =>
      obtain ⟨last, run, _, permutes⟩ :=
        exists_run_of_settle_ok (by simp) absorbed
      obtain ⟨has, joins⟩ := Run.invariant preserves run
        (List.forall_mem_cons.mpr ⟨givenNode, given⟩)
      refine ⟨?_, fun member isMember => has member (permutes.subset isMember),
        ?_⟩
      · intro empty
        rw [empty] at permutes
        exact absurd permutes.symm.eq_nil (List.cons_ne_nil _ _)
      · rw [operation.joinAll_perm (permutes.map verdict), joins,
          operation.join_comm]
        exact operation.joinAll_cons _ _

/-- A node that is refused led to a failing merge of two leaves, which hold
wherever the members and the node do. -/
theorem absorb_error
    {error : Error}
    (refused : absorb operation members node = .error error) :
    ∃ a b, property (.leaf a) ∧ property (.leaf b) ∧
      Leaf.merge operation a b = .error error ∧
      (operation = .inter → (members.map verdict).all id = true →
        verdict node = true →
        verdict (.leaf a) = true ∧ verdict (.leaf b) = true) := by
  cases node with
  | clauses content => cases refused
  | leaf leaf =>
      obtain ⟨last, run, member, isMember, fails⟩ :=
        exists_run_of_settle_error refused
      obtain ⟨has, joins⟩ := Run.invariant preserves run
        (List.forall_mem_cons.mpr ⟨givenNode, given⟩)
      refine ⟨member, last.leaf, has _ (List.mem_cons_of_mem _ isMember),
        has _ List.mem_cons_self, fails, ?_⟩
      intro isInter membersHold leafHolds
      subst isInter
      have all : (last.nodes.map verdict).all id = true := by
        refine joins.trans ?_
        rw [Front.nodes, List.map_cons, MergeOperation.joinAll, List.all_cons,
          membersHold]
        exact (Bool.and_true _).trans leafHolds
      rw [List.all_map, List.all_eq_true] at all
      exact ⟨all _ (List.mem_cons_of_mem _ isMember), all _ List.mem_cons_self⟩

end Invariant

end Siblings
end SearchQuery
