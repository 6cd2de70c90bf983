import SearchQuery.Proofs.DistanceRows

/-!
# Texts are edited one character after the other

An edit of a text inserts, deletes or substitutes one character anywhere in it.
Edits may follow each other in any order and may come back to a character, but
what a number of edits leads to can be aligned with the text at no higher cost.
So the distance without swaps is the least number of edits from one text to
another.
-/

namespace SearchQuery
namespace EditDistance

/-- One edit of a text. -/
inductive Edit : List Char → List Char → Prop
  | insert (front back : List Char) (b : Char) :
    Edit (front ++ back) (front ++ b :: back)
  | delete (front back : List Char) (a : Char) :
    Edit (front ++ a :: back) (front ++ back)
  | substitute (front back : List Char) (a b : Char) :
      Edit (front ++ a :: back) (front ++ b :: back)

/-- A text becomes another by a number of edits, one after the other. -/
inductive Edits : Nat → List Char → List Char → Prop
  | none (text : List Char) : Edits 0 text text
  | more {count : Nat} {first second third : List Char}
    (edits : Edits count first second)
      (edit : Edit second third) : Edits (count + 1) first third

namespace Edits

variable {first second third : List Char} {count more : Nat}

theorem trans (edits : Edits count first second)
    (editsMore : Edits more second third) :
    Edits (count + more) first third := by
  induction editsMore with
  | none => exact edits
  | more _ edit hypothesis => exact .more (hypothesis edits) edit

/-- A text can be edited behind another. -/
theorem behind (front : List Char) (edits : Edits count first second) :
    Edits count (front ++ first) (front ++ second) := by
  induction edits with
  | none => exact .none _
  | more _ edit hypothesis =>
      refine .more hypothesis ?_
      cases edit with
      | insert before after b =>
          rw [← List.append_assoc, ← List.append_assoc]
          exact .insert _ _ b
      | delete before after a =>
          rw [← List.append_assoc, ← List.append_assoc]
          exact .delete _ _ a
      | substitute before after a b =>
          rw [← List.append_assoc, ← List.append_assoc]
          exact .substitute _ _ a b

end Edits

/-- A step that is no swap takes as many edits as it costs. -/
theorem Step.edits {step : Step} (notSwap : step.isSwap = false)
    (rest : List Char) :
    Edits step.cost (step.source ++ rest) (step.target ++ rest) := by
  cases step with
  | keep a => exact .none _
  | insert b => exact .more (.none _) (.insert [] rest b)
  | delete a => exact .more (.none _) (.delete [] rest a)
  | substitute a b => exact .more (.none _) (.substitute [] rest a b)
  | swap a b => cases notSwap

variable {first second : List Char} {total : Nat}

/-- An alignment without swaps takes as many edits as it costs. -/
theorem edits_of_mem_costs (isCost : total ∈ costs false first second) :
    Edits total first second := by
  obtain ⟨steps, ⟨rfl, rfl, allowed⟩, rfl⟩ := isCost
  induction steps with
  | nil => exact .none []
  | cons step rest hypothesis =>
      obtain ⟨allowedStep, allowedRest⟩ := List.forall_mem_cons.mp allowed
      have editsStep := step.edits (Bool.eq_false_iff.mpr fun isSwap => by
        cases allowedStep isSwap) (rest.flatMap Step.source)
      exact editsStep.trans ((hypothesis allowedRest).behind step.target)

/-! ### Edits of an aligned text -/

/-- Alignments of texts that follow each other cost as much together. -/
theorem add_mem_costs
    {swaps : Bool}
    {moreFirst moreSecond : List Char}
    {more : Nat}
    (isCost : total ∈ costs swaps first second)
    (isMore : more ∈ costs swaps moreFirst moreSecond) :
    total + more ∈ costs swaps (first ++ moreFirst) (second ++ moreSecond) := by
  obtain ⟨steps, aligns, rfl⟩ := isCost
  obtain ⟨others, alignsMore, rfl⟩ := isMore
  exact ⟨steps ++ others, aligns.append alignsMore, cost_append steps others⟩

/-- A text is cut to a part that is aligned with the front of another and one
that is aligned with its back, without swaps. -/
def IsCut (total : Nat) (first front back : List Char) : Prop :=
  ∃ before after costBefore costAfter, first = before ++ after ∧
    costBefore ∈ costs false before front ∧ costAfter ∈ costs false after back ∧
      total = costBefore + costAfter

/-- A step before a text that is cut belongs to the part that is aligned with
the front. -/
theorem IsCut.behind
    {front back : List Char}
    (step : Step)
    (allowed : step.isSwap = true → false = true)
    (cut : IsCut total first front back) :
    IsCut (step.cost + total) (step.source ++ first)
      (step.target ++ front) back := by
  obtain ⟨before, after, costBefore, costAfter, rfl, isBefore, isAfter,
      rfl⟩ := cut
  have isStep : step.cost ∈ costs false step.source step.target := by
    have isCost := add_cost_mem_costs step
      (zero_mem_costs_iff.mpr (rfl : ([] : List Char) = []))
      allowed
    rwa [Nat.zero_add] at isCost
  refine ⟨step.source ++ before, after, _, costAfter, ?_,
    add_mem_costs isStep isBefore, isAfter, (Nat.add_assoc _ _ _).symm⟩
  rw [List.append_assoc]

/-- Without swaps, a part of the second text is aligned with a part of the
first: a step that writes no character comes before the part, and any other step
writes its first character. -/
theorem isCut_of_mem_costs
    {front back : List Char}
    (isCost : total ∈ costs false first (front ++ back)) :
    IsCut total first front back := by
  obtain ⟨steps, ⟨rfl, target, allowed⟩, rfl⟩ := isCost
  induction steps generalizing front with
  | nil =>
      obtain ⟨rfl, rfl⟩ := List.append_eq_nil_iff.mp target.symm
      exact ⟨[], [], 0, 0, rfl, zero_mem_costs_iff.mpr rfl,
        zero_mem_costs_iff.mpr rfl, rfl⟩
  | cons step rest hypothesis =>
      obtain ⟨allowedStep, allowedRest⟩ := List.forall_mem_cons.mp allowed
      cases front with
      | nil =>
          have isCost : cost (step :: rest) ∈ costs false _ back :=
            ⟨_, ⟨rfl, target, allowed⟩, rfl⟩
          exact ⟨[], _, 0, _, rfl, zero_mem_costs_iff.mpr rfl, isCost,
            (Nat.zero_add _).symm⟩
      | cons c frontRest =>
          cases step with
          | delete a =>
              exact (hypothesis target allowedRest).behind
                (.delete a) allowedStep
          | swap a b => cases allowedStep rfl
          | _ =>
              obtain ⟨rfl, targetRest⟩ := List.cons.inj target
              exact (hypothesis targetRest allowedRest).behind _ allowedStep

/-- Without swaps, a character of the second text is aligned with a part of the
first that is at most longer by what this costs. -/
theorem exists_of_mem_costs_append_cons
    {front back : List Char}
    {a : Char}
    (isCost : total ∈ costs false first (front ++ a :: back)) :
    ∃ before middle after costBefore costMiddle costAfter, first =
      before ++ (middle ++ after) ∧
      costBefore ∈ costs false before front ∧ middle.length ≤ costMiddle + 1 ∧
        costAfter ∈ costs false after back ∧
          total = costBefore + (costMiddle + costAfter) := by
  obtain ⟨before, rest, costBefore, costRest, rfl, isBefore, isRest, rfl⟩ :=
    isCut_of_mem_costs isCost
  have isRest : costRest ∈ costs false rest ([a] ++ back) := isRest
  obtain ⟨middle, after, costMiddle, costAfter, rfl, isMiddle, isAfter, rfl⟩ :=
    isCut_of_mem_costs isRest
  rw [costs_comm] at isMiddle
  refine ⟨before, middle, after, costBefore, costMiddle, costAfter, rfl,
    isBefore, ?_, isAfter, rfl⟩
  exact (length_le_add_of_mem_costs isMiddle).trans_eq
    (Nat.add_comm 1 costMiddle)

/-- A text is aligned with a single character by putting it for one of the
characters. -/
theorem exists_mem_costs_singleton (swaps : Bool) (first : List Char)
    (b : Char) :
    ∃ total ∈ costs swaps first [b], total ≤ max 1 first.length := by
  rcases first.eq_nil_or_concat' with rfl | ⟨front, a, rfl⟩
  · exact ⟨1, (isLeast_costs_nil_left swaps [b]).1, Nat.le_max_left 1 _⟩
  · refine ⟨_,
      add_substitution_mem_costs a b (isLeast_costs_nil_right swaps front).1,
      ?_⟩
    have := substitution_le_one a b
    rw [List.length_append, List.length_singleton]
    omega

/-- An edit of the second text adds at most its cost. -/
theorem Edit.exists_mem_costs
    {third : List Char}
    (edit : Edit second third)
    (isCost : total ∈ costs false first second) :
    ∃ other ∈ costs false first third, other ≤ total + 1 := by
  cases edit with
  | insert front back b =>
      obtain ⟨before, after, costBefore, costAfter, rfl, isBefore,
          isAfter, rfl⟩ :=
        isCut_of_mem_costs isCost
      have inserts := add_mem_costs (isLeast_costs_nil_left false [b]).1 isAfter
      refine ⟨_, add_mem_costs isBefore inserts, ?_⟩
      rw [List.length_singleton]
      omega
  | delete front back a =>
      obtain ⟨before, middle, after, costBefore, costMiddle, costAfter, rfl,
          isBefore, atMost,
        isAfter, rfl⟩ := exists_of_mem_costs_append_cons isCost
      have deletes :=
        add_mem_costs (isLeast_costs_nil_right false middle).1 isAfter
      refine ⟨_, add_mem_costs isBefore deletes, ?_⟩
      omega
  | substitute front back a b =>
      obtain ⟨before, middle, after, costBefore, costMiddle, costAfter, rfl,
          isBefore, atMost,
        isAfter, rfl⟩ := exists_of_mem_costs_append_cons isCost
      obtain ⟨other, isOther, atMostOther⟩ :=
        exists_mem_costs_singleton false middle b
      refine ⟨_, add_mem_costs isBefore (add_mem_costs isOther isAfter), ?_⟩
      omega

/-- A text can be aligned with what edits make of it at no higher cost. -/
theorem Edits.exists_mem_costs
    {count : Nat}
    (edits : Edits count first second) :
    ∃ total ∈ costs false first second, total ≤ count := by
  induction edits with
  | none => exact ⟨0, zero_mem_costs_iff.mpr rfl, Nat.le_refl 0⟩
  | more _ edit hypothesis =>
      obtain ⟨total, isCost, atMost⟩ := hypothesis
      obtain ⟨other, isOther, atMostMore⟩ := edit.exists_mem_costs isCost
      exact ⟨other, isOther, atMostMore.trans (Nat.succ_le_succ atMost)⟩

theorem isLeast_edits_levenshtein (first second : String) :
    IsLeast {count | Edits count first.toList second.toList}
      (levenshtein first second) := by
  have least := isLeast_costs_levenshtein first second
  refine ⟨edits_of_mem_costs least.1, fun count edits => ?_⟩
  obtain ⟨total, isCost, atMost⟩ := Edits.exists_mem_costs edits
  exact (least.2 isCost).trans atMost

/-- The distance without swaps is the least number of insertions, deletions and
substitutions of characters that lead from one text to the other. It is zero for
equal texts only and the same from either text, and there is no shorter way
through a third text. -/
theorem levenshtein_isLeast (first second third : String) :
    IsLeast {count | Edits count first.toList second.toList}
      (levenshtein first second) ∧
      (levenshtein first second = 0 ↔ first = second) ∧
      levenshtein second first = levenshtein first second ∧
      levenshtein first third ≤
        levenshtein first second + levenshtein second third := by
  obtain ⟨symmetric, isZero⟩ :=
    least_comm_and_eq_zero_iff isLeast_costs_levenshtein first second
  refine ⟨isLeast_edits_levenshtein first second, isZero, symmetric, ?_⟩
  have there := (isLeast_edits_levenshtein first second).1
  have further := (isLeast_edits_levenshtein second third).1
  exact (isLeast_edits_levenshtein first third).2 (there.trans further)

end EditDistance
end SearchQuery
