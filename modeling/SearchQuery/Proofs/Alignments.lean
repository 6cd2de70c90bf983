import Mathlib.Algebra.BigOperators.Group.List.Basic
import Mathlib.Algebra.Ring.Nat
import Mathlib.Data.Nat.Cast.Basic
import Mathlib.Order.Bounds.Basic
import Mathlib.Order.MinMax
import SearchQuery.EditDistance

/-!
# Alignments of texts

An alignment goes through two texts from left to right. Each of its steps keeps
a character, inserts, deletes or substitutes one, or swaps two neighbours, so
that no character takes part in two edits. What the alignments of two texts
cost, with or without swaps, can be told from their last steps: the least cost
for two texts is found from the least costs for the texts without their last
characters.
-/

namespace SearchQuery
namespace EditDistance

/-- A step of an alignment. -/
inductive Step
  | keep (a : Char)
  | insert (b : Char)
  | delete (a : Char)
  | substitute (a b : Char)
  | swap (a b : Char)

namespace Step

/-- The characters of the first text that a step takes up. -/
def source : Step → List Char
  | keep a => [a]
  | insert _ => []
  | delete a => [a]
  | substitute a _ => [a]
  | swap a b => [a, b]

/-- The characters of the second text that stand in their place. -/
def target : Step → List Char
  | keep a => [a]
  | insert b => [b]
  | delete _ => []
  | substitute _ b => [b]
  | swap a b => [b, a]

/-- Every step is an edit, except for keeping a character. -/
def cost : Step → Nat
  | keep _ => 0
  | _ => 1

/-- The step swaps neighbours. -/
def isSwap : Step → Bool
  | swap _ _ => true
  | _ => false

/-- The step that takes back another. -/
def reversed : Step → Step
  | keep a => keep a
  | insert b => delete b
  | delete a => insert a
  | substitute a b => substitute b a
  | swap a b => swap b a

/-- The same step without a swap: two characters are substituted instead. -/
def plain : Step → List Step
  | swap a b => [substitute a b, substitute b a]
  | step => [step]

theorem length_target_le (step : Step) :
    step.target.length ≤ step.source.length + step.cost := by
  cases step <;> exact Nat.le_of_ble_eq_true rfl

theorem target_eq_source {step : Step} (free : step.cost = 0) :
    step.target = step.source := by
  cases step with
  | keep a => rfl
  | _ => cases free

end Step

/-- Steps lead through two texts from left to right, without swaps unless these
are allowed. -/
structure Aligns (swaps : Bool) (steps : List Step) (first second : List Char) :
    Prop where
  source : steps.flatMap Step.source = first
  target : steps.flatMap Step.target = second
  allowed : ∀ step ∈ steps, step.isSwap = true → swaps = true

/-- What steps cost together. -/
def cost (steps : List Step) : Nat := (steps.map Step.cost).sum

/-- What the alignments of two texts cost. -/
def costs (swaps : Bool) (first second : List Char) : Set Nat :=
  {total | ∃ steps, Aligns swaps steps first second ∧ cost steps = total}

variable {swaps : Bool} {first second : List Char} {total : Nat}

theorem cost_append (front back : List Step) :
    cost (front ++ back) = cost front + cost back := by
  rw [cost, List.map_append, List.sum_append]
  rfl

/-- Alignments of texts that follow each other are an alignment of the whole
texts. -/
theorem Aligns.append
    {front back : List Step}
    {moreFirst moreSecond : List Char}
    (aligns : Aligns swaps front first second)
    (alignsMore : Aligns swaps back moreFirst moreSecond) :
    Aligns swaps (front ++ back) (first ++ moreFirst)
      (second ++ moreSecond) where
  source := by rw [List.flatMap_append, aligns.source, alignsMore.source]
  target := by rw [List.flatMap_append, aligns.target, alignsMore.target]
  allowed := List.forall_mem_append.mpr ⟨aligns.allowed, alignsMore.allowed⟩

/-- Without its last step, an alignment is one of the texts without what that
step takes up and puts there. -/
theorem Aligns.of_concat
    {front : List Step}
    {last : Step}
    (aligns : Aligns swaps (front ++ [last]) first second) :
    ∃ before after, Aligns swaps front before after ∧
      first = before ++ last.source ∧
      second = after ++ last.target ∧ (last.isSwap = true → swaps = true) := by
  obtain ⟨source, target, allowed⟩ := aligns
  rw [List.flatMap_append, List.flatMap_singleton] at source target
  obtain ⟨allowedFront, allowedLast⟩ := List.forall_mem_append.mp allowed
  exact ⟨_, _, ⟨rfl, rfl, allowedFront⟩, source.symm, target.symm,
    allowedLast last (List.mem_singleton_self last)⟩

/-- A step at the end adds its cost. -/
theorem add_cost_mem_costs
    (step : Step)
    (isCost : total ∈ costs swaps first second)
    (allowed : step.isSwap = true → swaps = true) :
    total + step.cost ∈
      costs swaps (first ++ step.source) (second ++ step.target) := by
  obtain ⟨steps, aligns, rfl⟩ := isCost
  have alignsStep : Aligns swaps [step] step.source step.target :=
    ⟨List.flatMap_singleton _ _, List.flatMap_singleton _ _,
      List.forall_mem_singleton.mpr allowed⟩
  refine ⟨steps ++ [step], aligns.append alignsStep, ?_⟩
  rw [cost_append]
  rfl

/-! ### Laws of the costs -/

/-- Taking back every step leads from the second text to the first. -/
theorem Aligns.reversed
    {steps : List Step}
    (aligns : Aligns swaps steps first second) :
    Aligns swaps (steps.map Step.reversed) second first where
  source := by
    rw [List.flatMap_map, ← aligns.target]
    exact List.flatMap_congr fun step _ => by cases step <;> rfl
  target := by
    rw [List.flatMap_map, ← aligns.source]
    exact List.flatMap_congr fun step _ => by cases step <;> rfl
  allowed := by
    refine List.forall_mem_map.mpr fun step isStep isSwap =>
      aligns.allowed step isStep ?_
    cases step <;> first | rfl | cases isSwap

/-- Alignments from either text to the other cost the same. -/
theorem costs_comm (swaps : Bool) (first second : List Char) :
    costs swaps first second = costs swaps second first := by
  have oneWay : ∀ first second, costs swaps first second ⊆
      costs swaps second first := by
    rintro first second _ ⟨steps, aligns, rfl⟩
    refine ⟨_, aligns.reversed, ?_⟩
    rw [cost, cost, List.map_map]
    exact congrArg List.sum
      (List.map_congr_left fun step _ => by cases step <;> rfl)
  exact Set.Subset.antisymm (oneWay first second) (oneWay second first)

/-- An alignment without cost is one of equal texts. -/
theorem zero_mem_costs_iff : 0 ∈ costs swaps first second ↔ first = second := by
  constructor
  · rintro ⟨steps, aligns, free⟩
    rw [cost, List.sum_eq_zero_iff_forall_eq_nat] at free
    rw [← aligns.source, ← aligns.target]
    refine List.flatMap_congr fun step isStep => (Step.target_eq_source ?_).symm
    exact free _ (List.mem_map_of_mem isStep)
  · rintro rfl
    refine ⟨first.map .keep, ⟨?_, ?_, ?_⟩, ?_⟩
    · simp [List.flatMap_map, Step.source]
    · simp [List.flatMap_map, Step.target]
    · exact List.forall_mem_map.mpr fun _ _ => Bool.noConfusion
    · simp [cost, Function.comp_def, Step.cost]

theorem costs_false_subset (first second : List Char) :
    costs false first second ⊆ costs true first second := by
  rintro _ ⟨steps, aligns, rfl⟩
  exact ⟨steps, ⟨aligns.source, aligns.target, fun _ _ _ => rfl⟩, rfl⟩

/-- Two substitutions do what a swap does, so that alignments without swaps cost
at most twice as much. -/
theorem exists_mem_costs_false_le (isCost : total ∈ costs swaps first second) :
    ∃ other ∈ costs false first second, other ≤ 2 * total := by
  obtain ⟨steps, aligns, rfl⟩ := isCost
  refine ⟨cost (steps.flatMap Step.plain), ⟨_, ⟨?_, ?_, ?_⟩, rfl⟩, ?_⟩
  · rw [List.flatMap_assoc, ← aligns.source]
    exact List.flatMap_congr fun step _ => by cases step <;> rfl
  · rw [List.flatMap_assoc, ← aligns.target]
    exact List.flatMap_congr fun step _ => by cases step <;> rfl
  · intro part isPart isSwap
    obtain ⟨step, _, isPart⟩ := List.mem_flatMap.mp isPart
    cases step <;>
      simp only [Step.plain, List.mem_cons, List.not_mem_nil, or_false]
      at isPart
    case swap => rcases isPart with rfl | rfl <;> cases isSwap
    all_goals
      subst isPart
      cases isSwap
  · clear aligns
    induction steps with
    | nil => exact Nat.le_refl 0
    | cons step rest hypothesis =>
        have atMostTwice : cost step.plain ≤ 2 * step.cost := by
          cases step <;> exact Nat.le_of_ble_eq_true rfl
        rw [List.flatMap_cons, cost_append]
        rw [show cost (step :: rest) = step.cost + cost rest from rfl]
        omega

/-- A text is at most longer than another by what an alignment of them costs. -/
theorem length_le_add_of_mem_costs (isCost : total ∈ costs swaps first second) :
    second.length ≤ first.length + total := by
  obtain ⟨steps, ⟨rfl, rfl, allowed⟩, rfl⟩ := isCost
  induction steps with
  | nil => exact Nat.le_refl 0
  | cons step rest hypothesis =>
      have atStep := step.length_target_le
      have atRest :=
        hypothesis fun other isOther =>
          allowed other (List.mem_cons_of_mem _ isOther)
      rw [List.flatMap_cons, List.flatMap_cons, List.length_append,
        List.length_append]
      rw [show cost (step :: rest) = step.cost + cost rest from rfl]
      omega

/-! ### Least costs -/

/-- Nothing is aligned with a text by inserting every character. -/
theorem isLeast_costs_nil_left (swaps : Bool) (second : List Char) :
    IsLeast (costs swaps [] second) second.length := by
  constructor
  · refine ⟨second.map .insert, ⟨?_, ?_, ?_⟩, ?_⟩
    · simp [List.flatMap_map, Step.source]
    · simp [List.flatMap_map, Step.target]
    · exact List.forall_mem_map.mpr fun _ _ => Bool.noConfusion
    · simp [cost, Function.comp_def, Step.cost]
  · intro total isCost
    simpa using length_le_add_of_mem_costs isCost

theorem isLeast_costs_nil_right (swaps : Bool) (first : List Char) :
    IsLeast (costs swaps first []) first.length := by
  rw [costs_comm]
  exact isLeast_costs_nil_left swaps first

/-- What the last step of an alignment can be, and what the steps before it
cost. -/
inductive EndsWith (swaps : Bool) (first second : List Char) (a b : Char)
    (total : Nat) : Prop
  | deletion {other : Nat} (isCost : other ∈ costs swaps first (second ++ [b]))
      (adds : total = other + 1) : EndsWith swaps first second a b total
  | insertion {other : Nat} (isCost : other ∈ costs swaps (first ++ [a]) second)
      (adds : total = other + 1) : EndsWith swaps first second a b total
  | substitution {other : Nat} (isCost : other ∈ costs swaps first second)
      (adds : other + substitution a b ≤ total) :
        EndsWith swaps first second a b total
  | swap {before after : List Char} {other : Nat} (allowed : swaps = true)
      (isFirst : first = before ++ [b]) (isSecond : second = after ++ [a])
      (isCost : other ∈ costs swaps before after) (adds : total = other + 1) :
      EndsWith swaps first second a b total

theorem substitution_le_one (a b : Char) : substitution a b ≤ 1 := by
  unfold substitution
  split <;> omega

/-- An alignment of two texts that are not empty has a last step. -/
theorem endsWith_of_mem_costs
    {a b : Char}
    (isCost : total ∈ costs swaps (first ++ [a]) (second ++ [b])) :
    EndsWith swaps first second a b total := by
  obtain ⟨steps, aligns, rfl⟩ := isCost
  rcases steps.eq_nil_or_concat' with rfl | ⟨front, last, rfl⟩
  · exact absurd aligns.source.symm
      (List.append_ne_nil_of_right_ne_nil _ (List.cons_ne_nil a []))
  · obtain ⟨before, after, rest, isFirst, isSecond, allowed⟩ := aligns.of_concat
    have isCost : cost front ∈ costs swaps before after := ⟨front, rest, rfl⟩
    have adds : cost (front ++ [last]) = cost front + last.cost :=
      cost_append front [last]
    cases last with
    | keep c =>
        obtain ⟨rfl, ⟨⟩⟩ := List.append_inj' isFirst rfl
        obtain ⟨rfl, ⟨⟩⟩ := List.append_inj' isSecond rfl
        refine .substitution isCost ?_
        rw [adds, substitution, if_pos rfl]
        exact Nat.le_refl _
    | insert c =>
        obtain ⟨rfl, ⟨⟩⟩ := List.append_inj' isSecond rfl
        rw [Step.source, List.append_nil] at isFirst
        exact .insertion (isFirst ▸ isCost) adds
    | delete c =>
        obtain ⟨rfl, ⟨⟩⟩ := List.append_inj' isFirst rfl
        rw [Step.target, List.append_nil] at isSecond
        exact .deletion (isSecond ▸ isCost) adds
    | substitute c d =>
        obtain ⟨rfl, ⟨⟩⟩ := List.append_inj' isFirst rfl
        obtain ⟨rfl, ⟨⟩⟩ := List.append_inj' isSecond rfl
        refine .substitution isCost ?_
        rw [adds]
        exact Nat.add_le_add_left (substitution_le_one _ _) _
    | swap c d =>
        change first ++ [a] = before ++ ([c] ++ [d]) at isFirst
        change second ++ [b] = after ++ ([d] ++ [c]) at isSecond
        rw [← List.append_assoc] at isFirst isSecond
        obtain ⟨endsFirst, ⟨⟩⟩ := List.append_inj' isFirst rfl
        obtain ⟨endsSecond, ⟨⟩⟩ := List.append_inj' isSecond rfl
        exact .swap (allowed rfl) endsFirst endsSecond isCost adds

/-- Putting a character for another at the end adds its cost, which is none for
the same character. -/
theorem add_substitution_mem_costs
    (a b : Char)
    (isCost : total ∈ costs swaps first second) :
    total + substitution a b ∈ costs swaps (first ++ [a]) (second ++ [b]) := by
  unfold substitution
  split
  · rename_i same
    exact same ▸ add_cost_mem_costs (.keep a) isCost Bool.noConfusion
  · exact add_cost_mem_costs (.substitute a b) isCost Bool.noConfusion

/-- Swapping neighbours at the end adds the cost of one substitution, which is
none for the same characters. -/
theorem add_swap_mem_costs
    (a b : Char)
    (isCost : total ∈ costs true first second) :
    total + substitution a b ∈
      costs true (first ++ [b] ++ [a]) (second ++ [a] ++ [b]) := by
  rw [List.append_assoc, List.append_assoc]
  unfold substitution
  split
  · rename_i same
    subst same
    have keepsOne := add_cost_mem_costs (.keep a) isCost Bool.noConfusion
    have keepsTwo := add_cost_mem_costs (.keep a) keepsOne Bool.noConfusion
    rw [List.append_assoc, List.append_assoc] at keepsTwo
    exact keepsTwo
  · exact add_cost_mem_costs (.swap b a) isCost fun _ => rfl

section Table

variable {a b : Char} {up left corner : Nat}
  (above : IsLeast (costs swaps first (second ++ [b])) up)
  (before : IsLeast (costs swaps (first ++ [a]) second) left)
  (diagonal : IsLeast (costs swaps first second) corner)
include above before diagonal

/-- The least of what the steps other than swaps lead to is a cost. -/
theorem min_mem_costs_concat :
    min (min (up + 1) (left + 1)) (corner + substitution a b) ∈
      costs swaps (first ++ [a]) (second ++ [b]) := by
  have deletes := add_cost_mem_costs (.delete a) above.1 Bool.noConfusion
  have inserts := add_cost_mem_costs (.insert b) before.1 Bool.noConfusion
  rw [Step.target, List.append_nil] at deletes
  rw [Step.source, List.append_nil] at inserts
  have substitutes := add_substitution_mem_costs a b diagonal.1
  exact min_rec' (· ∈ costs _ _ _) (min_rec' (· ∈ costs _ _ _) deletes inserts)
    substitutes

/-- No alignment costs less than the least of what the steps other than swaps
lead to, unless it ends in a swap. -/
theorem min_le_or_ends_in_swap
    (isCost : total ∈ costs swaps (first ++ [a]) (second ++ [b])) :
    min (min (up + 1) (left + 1)) (corner + substitution a b) ≤ total ∨
      swaps = true ∧ ∃ front back, first = front ++ [b] ∧ second = back ++ [a] ∧
        ∃ other ∈ costs swaps front back, total = other + 1 := by
  cases endsWith_of_mem_costs isCost with
  | deletion isCost adds =>
      have := above.2 isCost
      exact .inl (by omega)
  | insertion isCost adds =>
      have := before.2 isCost
      exact .inl (by omega)
  | substitution isCost adds =>
      have := diagonal.2 isCost
      exact .inl (by omega)
  | swap allowed isFirst isSecond isCost adds =>
      exact .inr ⟨allowed, _, _, isFirst, isSecond, _, isCost, adds⟩

/-- The least cost for two texts is found from the least costs for the texts
without one or both of their last characters, where these are not those of a
swap. -/
theorem isLeast_costs_concat
    (noSwap : swaps = true → ∀ front back, first = front ++ [b] →
      second ≠ back ++ [a]) :
    IsLeast (costs swaps (first ++ [a]) (second ++ [b]))
      (min (min (up + 1) (left + 1)) (corner + substitution a b)) := by
  refine ⟨min_mem_costs_concat above before diagonal, fun total isCost => ?_⟩
  rcases min_le_or_ends_in_swap above before diagonal isCost with
    least | ⟨allowed, swapped⟩
  · exact least
  · obtain ⟨front, back, isFirst, isSecond, _⟩ := swapped
    exact absurd isSecond (noSwap allowed front back isFirst)

end Table

/-- Where the last characters are those of a swap, the least cost is also found
from the texts without two of them. -/
theorem isLeast_costs_concat_swap
    {a b : Char}
    {up left corner far : Nat}
    (above : IsLeast (costs true (first ++ [b]) (second ++ [a] ++ [b])) up)
    (before : IsLeast (costs true (first ++ [b] ++ [a]) (second ++ [a])) left)
    (diagonal : IsLeast (costs true (first ++ [b]) (second ++ [a])) corner)
    (twoBack : IsLeast (costs true first second) far) :
    IsLeast (costs true (first ++ [b] ++ [a]) (second ++ [a] ++ [b]))
      (min (min (min (up + 1) (left + 1)) (corner + substitution a b))
        (far + substitution a b)) := by
  constructor
  · have unswapped := min_mem_costs_concat above before diagonal
    have swapped := add_swap_mem_costs a b twoBack.1
    exact min_rec' (· ∈ costs _ _ _) unswapped swapped
  · intro total isCost
    rcases min_le_or_ends_in_swap above before diagonal isCost with
      least | ⟨_, swapped⟩
    · exact (min_le_left _ _).trans least
    · obtain ⟨front, back, isFirst, isSecond, other, isCost, adds⟩ := swapped
      obtain ⟨rfl, _⟩ := List.append_inj' isFirst rfl
      obtain ⟨rfl, _⟩ := List.append_inj' isSecond rfl
      have := twoBack.2 isCost
      have := substitution_le_one a b
      omega

end EditDistance
end SearchQuery
