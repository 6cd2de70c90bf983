import SearchQuery.Regex.Match
import SearchQuery.Regex.Normal
import Mathlib.Data.List.Basic
import Mathlib.Data.Nat.Basic
import Mathlib.Order.Basic

/-!
# What expressions match

An expression spans two places of a text if it matches the characters between
them. This is defined by recursion on the expression, with no regard to how
matches are found. The places that matching finds are exactly those that an
expression spans from some place where it may begin.
-/

namespace SearchQuery
namespace Regex

/-- A number of steps lead from one place to another. -/
def Rounds (step : Nat → Nat → Prop) : Nat → Nat → Nat → Prop
  | 0, i, j => i = j
  | count + 1, i, j => ∃ k, step i k ∧ Rounds step count k j

mutual

/-- The expression matches the characters of a text between two places. -/
def Spans (text : Array Char) : Regex → Nat → Nat → Prop
  | .empty, i, j => i = j
  | .literal characters, i, j =>
      j = i + characters.length ∧ characters <+: text.toList.drop i
  | .set characters, i, j =>
      j = i + 1 ∧ (text[i]?).any characters.contains = true
  | .assertion condition, i, j => i = j ∧ condition.holds text i = true
  | .repeated least most _ body, i, j =>
      ∃ count, least ≤ count ∧ (∀ greatest ∈ most, count ≤ max least greatest) ∧
        Rounds (body.Spans text) count i j
  | .group body, i, j => body.Spans text i j
  | .sequence parts, i, j => SpansAll text parts i j
  | .choice parts, i, j => SpansSome text parts i j

/-- The parts match one after the other between two places. -/
def SpansAll (text : Array Char) : List Regex → Nat → Nat → Prop
  | [], i, j => i = j
  | part :: rest, i, j => ∃ k, part.Spans text i k ∧ SpansAll text rest k j

/-- Some part matches between two places. -/
def SpansSome (text : Array Char) : List Regex → Nat → Nat → Prop
  | [], _, _ => False
  | part :: rest, i, j => part.Spans text i j ∨ SpansSome text rest i j

end

section Places

/-- Places in decreasing order, each once. -/
abbrev Decreasing (places : List Nat) : Prop := places.Pairwise (· > ·)

/-- A step takes decreasing places to the decreasing places to which a relation
leads from them. -/
def Follows (step : List Nat → List Nat) (relation : Nat → Nat → Prop) : Prop :=
  ∀ places, Decreasing places →
    Decreasing (step places) ∧ ∀ j, j ∈ step places ↔ ∃ i ∈ places, relation i j

/-- The merged list has the places of both. -/
theorem mem_merge (a b : List Nat) (j : Nat) :
    j ∈ merge a b ↔ j ∈ a ∨ j ∈ b := by
  fun_induction merge a b with
  | case1 => simp
  | case2 => simp
  | case3 a rest b rest' _ hypothesis => rw [List.mem_cons, hypothesis]; grind
  | case4 a rest b rest' _ _ hypothesis => rw [List.mem_cons, hypothesis]; grind
  | case5 a rest b rest' _ _ hypothesis => rw [List.mem_cons, hypothesis]; grind

/-- Decreasing lists are merged to a decreasing one. -/
theorem decreasing_merge
    {a b : List Nat}
    (decreasingA : Decreasing a)
    (decreasingB : Decreasing b) :
    Decreasing (merge a b) := by
  fun_induction merge a b with
  | case1 => exact decreasingB
  | case2 => exact decreasingA
  | case3 a rest b rest' less hypothesis =>
      obtain ⟨above, decreasingA⟩ := List.pairwise_cons.mp decreasingA
      refine List.pairwise_cons.mpr ⟨fun k isPlace => ?_,
        hypothesis decreasingA decreasingB⟩
      have := List.pairwise_cons.mp decreasingB
      grind [mem_merge]
  | case4 a rest b rest' _ less hypothesis =>
      obtain ⟨above, decreasingB⟩ := List.pairwise_cons.mp decreasingB
      refine List.pairwise_cons.mpr ⟨fun k isPlace => ?_,
        hypothesis decreasingA decreasingB⟩
      have := List.pairwise_cons.mp decreasingA
      grind [mem_merge]
  | case5 a rest b rest' _ _ hypothesis =>
      obtain ⟨aboveA, decreasingA⟩ := List.pairwise_cons.mp decreasingA
      obtain ⟨aboveB, decreasingB⟩ := List.pairwise_cons.mp decreasingB
      refine List.pairwise_cons.mpr ⟨fun k isPlace => ?_,
        hypothesis decreasingA decreasingB⟩
      grind [mem_merge]

/-- The places that are left are among those of the list. -/
theorem without_sublist (a b : List Nat) : (without a b).Sublist a := by
  fun_induction without a b with
  | case1 => exact List.Sublist.refl _
  | case2 => exact List.Sublist.refl _
  | case3 a rest b rest' _ hypothesis => exact hypothesis.cons_cons a
  | case4 a rest b rest' _ _ hypothesis => exact hypothesis
  | case5 a rest b rest' _ _ hypothesis => exact hypothesis.cons a

/-- What is left of a decreasing list are the places that are not in the
other. -/
theorem mem_without
    {a b : List Nat}
    (decreasingA : Decreasing a)
    (decreasingB : Decreasing b)
    (j : Nat) :
    j ∈ without a b ↔ j ∈ a ∧ j ∉ b := by
  fun_induction without a b with
  | case1 => simp
  | case2 => simp
  | case3 a rest b rest' less hypothesis =>
      have := List.pairwise_cons.mp decreasingB
      rw [List.mem_cons,
        hypothesis (List.pairwise_cons.mp decreasingA).2 decreasingB]
      grind
  | case4 a rest b rest' _ less hypothesis =>
      have := List.pairwise_cons.mp decreasingA
      rw [hypothesis decreasingA (List.pairwise_cons.mp decreasingB).2]
      grind
  | case5 a rest b rest' _ _ hypothesis =>
      have := List.pairwise_cons.mp decreasingA
      have := List.pairwise_cons.mp decreasingB
      rw [hypothesis (List.pairwise_cons.mp decreasingA).2
        (List.pairwise_cons.mp decreasingB).2]
      grind

variable {step next : List Nat → List Nat} {relation other : Nat → Nat → Prop}

/-- Steps in turn follow relations in turn. -/
theorem Follows.comp
    (first : Follows step relation)
    (second : Follows next other) :
    Follows (next ∘ step) fun i j => ∃ k, relation i k ∧ other k j := by
  intro places decreasing
  obtain ⟨decreasing, reaches⟩ := first places decreasing
  obtain ⟨decreasing, goesOn⟩ := second (step places) decreasing
  refine ⟨decreasing, fun j => (goesOn j).trans ?_⟩
  simp only [reaches]
  constructor
  · rintro ⟨k, ⟨i, isPlace, before⟩, behind⟩
    exact ⟨i, isPlace, k, before, behind⟩
  · rintro ⟨i, isPlace, k, before, behind⟩
    exact ⟨k, ⟨i, isPlace, before⟩, behind⟩

theorem follows_eq : Follows (fun places => places) fun i j => i = j := by
  intro places decreasing
  exact ⟨decreasing, fun j => by simp⟩

theorem Follows.congr
    (follows : Follows step relation)
    (same : ∀ i j, relation i j ↔ other i j) :
    Follows step other := by
  rwa [show relation = other from funext fun i => funext fun j =>
    propext (same i j)] at follows

/-- Both of two steps together follow either relation. -/
theorem Follows.either
    (first : Follows step relation)
    (second : Follows next other) :
    Follows (fun places => merge (step places) (next places))
      fun i j => relation i j ∨ other i j := by
  intro places decreasing
  obtain ⟨decreasingA, reachesA⟩ := first places decreasing
  obtain ⟨decreasingB, reachesB⟩ := second places decreasing
  refine ⟨decreasing_merge decreasingA decreasingB, fun j => ?_⟩
  rw [mem_merge, reachesA, reachesB]
  grind

theorem follows_filter (holds : Nat → Bool) :
    Follows (fun places => places.filter holds) fun i j =>
      i = j ∧ holds i = true := by
  intro places decreasing
  refine ⟨decreasing.filter _, fun j => ?_⟩
  rw [List.mem_filter]
  grind

/-- To advance is to go over one character that satisfies the condition. -/
theorem follows_advance (text : Array Char) (holds : Char → Bool) :
    Follows (advance text holds) fun i j =>
      j = i + 1 ∧ (text[i]?).any holds = true := by
  intro places decreasing
  constructor
  · exact (decreasing.filter _).map _ fun i j above => Nat.succ_lt_succ above
  · intro j
    simp only [advance, List.mem_map, List.mem_filter]
    grind

/-- A step that is applied a number of times makes as many rounds. One that
changes nothing is not applied again, and would change nothing however often it
was. -/
theorem Follows.rounds (follows : Follows step relation) (count : Nat) :
    Follows (iterate step count) (Rounds relation count) := by
  induction count with
  | zero => exact follows_eq
  | succ count hypothesis =>
      intro places decreasing
      have run := follows.comp hypothesis places decreasing
      by_cases fixed : step places = places
      · have stays : iterate step count places = places := by
          cases count with
          | zero => rfl
          | succ count => simp [iterate, fixed]
        rw [Function.comp, fixed, stays] at run
        rwa [iterate, if_pos fixed]
      · rwa [iterate, if_neg fixed]

/-- Rounds do not lead out of places that a step does not lead out of. -/
theorem mem_of_rounds
    {places : List Nat}
    (closed : ∀ i ∈ places, ∀ j, relation i j → j ∈ places)
    {count i j : Nat}
    (isPlace : i ∈ places)
    (run : Rounds relation count i j) :
    j ∈ places := by
  induction count generalizing i with
  | zero => exact run ▸ isPlace
  | succ count hypothesis =>
      obtain ⟨k, leads, more⟩ := run
      exact hypothesis (closed i isPlace k leads) more

/-- What is grown from the last new places are all places that some rounds lead
to from the places reached so far, provided that one step from these leads to
other new places only from the last ones. Without new places the reached ones
are closed under the relation. -/
theorem Follows.mem_grow
    (follows : Follows step relation)
    {count : Nat}
    {reached last : List Nat}
    (decreasing : Decreasing reached)
    (decreasingLast : Decreasing last)
    (isReached : ∀ i ∈ last, i ∈ reached)
    (closed : ∀ i ∈ reached, ∀ j, relation i j → j ∈ reached ∨ ∃ k ∈ last,
      relation k j) :
    Decreasing (grow step count reached last) ∧
      ∀ j, j ∈ grow step count reached last ↔
        ∃ rounds ≤ count, ∃ i ∈ reached, Rounds relation rounds i j := by
  induction count generalizing reached last with
  | zero =>
      refine ⟨decreasing, fun j => ?_⟩
      simp [grow, Rounds]
  | succ count hypothesis =>
      obtain ⟨decreasingStep, reaches⟩ := follows last decreasingLast
      have isNew := mem_without decreasingStep decreasing
      have decreasingNew :=
        decreasingStep.sublist (without_sublist (step last) reached)
      rw [grow]
      split
      · rename_i nothingNew
        rw [nothingNew] at isNew
        have closed : ∀ i ∈ reached, ∀ j, relation i j → j ∈ reached := by
          intro i isPlace j leads
          have := closed i isPlace j leads
          grind
        refine ⟨decreasing,
          fun j => ⟨fun isPlace => ⟨0, Nat.zero_le _, j, isPlace, rfl⟩, ?_⟩⟩
        rintro ⟨rounds, -, i, isPlace, run⟩
        exact mem_of_rounds closed isPlace run
      · generalize without (step last) reached = new at *
        have members := mem_merge new reached
        have leadsInto : ∀ i ∈ reached, ∀ j, relation i j →
            j ∈ merge new reached := by
          intro i isPlace j leads
          rw [members, isNew, reaches]
          by_cases old : j ∈ reached
          · exact .inr old
          · exact .inl ⟨(closed i isPlace j leads).resolve_left old, old⟩
        obtain ⟨decreasing, grows⟩ := hypothesis
          (decreasing_merge decreasingNew decreasing)
          decreasingNew (fun i isPlace => (members i).mpr (.inl isPlace))
            fun i isPlace j leads =>
            ((members i).mp isPlace).elim (fun isNew => .inr ⟨i, isNew, leads⟩)
              fun old => .inl (leadsInto i old j leads)
        refine ⟨decreasing, fun j => (grows j).trans ?_⟩
        constructor
        · rintro ⟨rounds, atMost, i, isPlace, run⟩
          rcases (members i).mp isPlace with isPlace | isPlace
          · obtain ⟨leads, -⟩ := (isNew i).mp isPlace
            obtain ⟨k, isLast, leads⟩ := (reaches i).mp leads
            exact ⟨rounds + 1, Nat.succ_le_succ atMost, k, isReached k isLast,
              i, leads, run⟩
          · exact ⟨rounds, Nat.le_succ_of_le atMost, i, isPlace, run⟩
        · rintro ⟨rounds, atMost, i, isPlace, run⟩
          cases rounds with
          | zero =>
              exact ⟨0, Nat.zero_le _, i, (members i).mpr (.inr isPlace), run⟩
          | succ rounds =>
              obtain ⟨k, leads, run⟩ := run
              exact ⟨rounds, Nat.le_of_succ_le_succ atMost, k,
                leadsInto i isPlace k leads, run⟩

/-- Rounds of steps that do not go back need no more of them than there are
places on the way. -/
theorem exists_rounds_le
    (ascends : ∀ i j, relation i j → i ≤ j)
    {count i j : Nat}
    (run : Rounds relation count i j) :
    i ≤ j ∧ ∃ rounds ≤ j - i, rounds ≤ count ∧ Rounds relation rounds i j := by
  induction count generalizing i with
  | zero => exact ⟨run.le, 0, Nat.zero_le _, le_rfl, run⟩
  | succ count hypothesis =>
      obtain ⟨k, leads, more⟩ := run
      obtain ⟨notBack, rounds, short, fewer, run⟩ := hypothesis more
      rcases (ascends i k leads).eq_or_lt with rfl | further
      · exact ⟨notBack, rounds, short, Nat.le_succ_of_le fewer, run⟩
      · exact ⟨by omega, rounds + 1, by omega, by omega, k, leads, run⟩

/-- Rounds can be made in two parts. -/
theorem rounds_add_iff (first second i j : Nat) :
    Rounds relation (first + second) i j ↔
      ∃ k, Rounds relation first i k ∧ Rounds relation second k j := by
  induction first generalizing i with
  | zero => simp [Rounds]
  | succ first hypothesis =>
      rw [Nat.succ_add]
      simp only [Rounds, hypothesis]
      grind

end Places

variable {text : Array Char} {i j : Nat}

/-- Rounds that do not go back and end in the text do so, too. -/
theorem bounds_of_rounds
    {step : Nat → Nat → Prop}
    (bounds : ∀ i j, step i j → i ≤ j ∧ (j = i ∨ j ≤ text.size))
    {count : Nat}
    (run : Rounds step count i j) :
    i ≤ j ∧ (j = i ∨ j ≤ text.size) := by
  induction count generalizing i with
  | zero => exact ⟨run.le, .inl run.symm⟩
  | succ count hypothesis =>
      obtain ⟨k, leads, more⟩ := run
      have := bounds i k leads
      have := hypothesis more
      omega

mutual

/-- A match ends no earlier than it begins, and in the text unless it has no
characters. -/
theorem bounds_of_spans (e : Regex) {i j : Nat} (spans : e.Spans text i j) :
    i ≤ j ∧ (j = i ∨ j ≤ text.size) := by
  cases e with
  | empty => exact ⟨spans.le, .inl spans.symm⟩
  | literal characters =>
      obtain ⟨rfl, isPrefix⟩ := spans
      have length := isPrefix.length_le
      rw [List.length_drop] at length
      have size : text.toList.length = text.size := Array.length_toList
      omega
  | set characters =>
      obtain ⟨rfl, isMember⟩ := spans
      have inside : i < text.size := by
        by_contra outside
        simp [Array.getElem?_eq_none (not_lt.mp outside)] at isMember
      omega
  | assertion condition => exact ⟨spans.1.le, .inl spans.1.symm⟩
  | repeated least most greedy body =>
      obtain ⟨count, -, -, run⟩ := spans
      exact bounds_of_rounds (fun i j => bounds_of_spans body) run
  | group body => exact bounds_of_spans body spans
  | sequence parts => exact bounds_of_spansAll parts spans
  | choice parts => exact bounds_of_spansSome parts spans

theorem bounds_of_spansAll (parts : List Regex) {i j : Nat}
    (spans : SpansAll text parts i j) :
    i ≤ j ∧ (j = i ∨ j ≤ text.size) := by
  cases parts with
  | nil => exact ⟨spans.le, .inl spans.symm⟩
  | cons part rest =>
      obtain ⟨k, spansPart, spansRest⟩ := spans
      have := bounds_of_spans part spansPart
      have := bounds_of_spansAll rest spansRest
      omega

theorem bounds_of_spansSome (parts : List Regex) {i j : Nat}
    (spans : SpansSome text parts i j) :
    i ≤ j ∧ (j = i ∨ j ≤ text.size) := by
  cases parts with
  | nil => exact spans.elim
  | cons part rest =>
      exact spans.elim (bounds_of_spans part) (bounds_of_spansSome rest)

end

/-- A repetition makes its least number of rounds and then no more than some
others. Without a greatest number these are as many as there are places. -/
theorem spans_repeated_iff {least : Nat} {most : Option Nat} {greedy : Bool}
    {body : Regex} :
    (repeated least most greedy body).Spans text i j ↔
      ∃ k, Rounds (body.Spans text) least i k ∧
        ∃ more ≤ (match most with
          | some most => most - least
          | none => text.size + 1), Rounds (body.Spans text) more k j := by
  constructor
  · rintro ⟨count, atLeast, atMost, run⟩
    obtain ⟨more, rfl⟩ := Nat.exists_eq_add_of_le atLeast
    obtain ⟨k, first, run⟩ := (rounds_add_iff least more i j).mp run
    refine ⟨k, first, ?_⟩
    cases most with
    | some most =>
        have := atMost most rfl
        exact ⟨more, by dsimp only; omega, run⟩
    | none =>
        obtain ⟨-, rounds, short, -, run⟩ :=
          exists_rounds_le (fun i j spans => (bounds_of_spans body spans).1) run
        have := bounds_of_rounds (fun i j => bounds_of_spans body) run
        exact ⟨rounds, by dsimp only; omega, run⟩
  · rintro ⟨k, first, more, atMost, run⟩
    refine ⟨least + more, Nat.le_add_right _ _, ?_,
      (rounds_add_iff least more i j).mpr
      ⟨k, first, run⟩⟩
    rintro greatest ⟨⟩
    dsimp only at atMost
    omega

theorem spans_literal_nil : (literal []).Spans text i j ↔ i = j := by
  simp [Spans, eq_comm]

/-- A literal is matched character by character. -/
theorem spans_literal_cons (c : Char) (rest : List Char) :
    (literal (c :: rest)).Spans text i j ↔
      (text[i]?).any (· == c) = true ∧ (literal rest).Spans text (i + 1) j := by
  have next : c :: rest <+: text.toList.drop i ↔
      (text[i]?).any (· == c) = true ∧ rest <+: text.toList.drop (i + 1) := by
    rw [← Array.getElem?_toList]
    by_cases inside : i < text.toList.length
    · rw [List.drop_eq_getElem_cons inside, List.cons_prefix_cons,
        List.getElem?_eq_getElem inside, Option.any_some, beq_iff_eq, eq_comm]
    · rw [List.drop_eq_nil_of_le (not_lt.mp inside),
        List.getElem?_eq_none (not_lt.mp inside)]
      simp
  rw [Spans, Spans, next, List.length_cons]
  grind

/-- To advance over characters in turn is to match them as a literal. -/
theorem follows_literal (text : Array Char) (characters : List Char) :
    Follows
      (fun places =>
        characters.foldl (fun places c => advance text (· == c) places) places)
      ((literal characters).Spans text) := by
  induction characters with
  | nil => exact follows_eq.congr fun i j => spans_literal_nil.symm
  | cons c rest hypothesis =>
      refine ((follows_advance text (· == c)).comp hypothesis).congr fun i j =>
        ?_
      rw [spans_literal_cons]
      constructor
      · rintro ⟨_, ⟨rfl, isNext⟩, more⟩
        exact ⟨isNext, more⟩
      · rintro ⟨isNext, more⟩
        exact ⟨i + 1, ⟨rfl, isNext⟩, more⟩

mutual

/-- The places where matches are found to end are those that the expression
spans from the places where they may begin. -/
theorem follows_ends (text : Array Char) (e : Regex) :
    Follows (e.ends text) (e.Spans text) := by
  cases e with
  | empty => exact follows_eq
  | literal characters => exact follows_literal text characters
  | set characters => exact follows_advance text characters.contains
  | assertion condition => exact follows_filter (condition.holds text)
  | repeated least most greedy body =>
      have follows := follows_ends text body
      intro places decreasing
      obtain ⟨decreasing, first⟩ := follows.rounds least places decreasing
      obtain ⟨decreasing, grows⟩ := follows.mem_grow decreasing decreasing
        (fun i => id)
        (fun i isPlace j leads => .inr ⟨i, isPlace, leads⟩)
      refine ⟨decreasing, fun j => (grows j).trans ?_⟩
      simp only [spans_repeated_iff, first]
      grind
  | group body => exact follows_ends text body
  | sequence parts => exact follows_endsOfAll text parts
  | choice parts => exact follows_endsOfSome text parts

theorem follows_endsOfAll (text : Array Char) (parts : List Regex) :
    Follows (endsOfAll text parts) (SpansAll text parts) := by
  cases parts with
  | nil => exact follows_eq
  | cons part rest =>
      exact (follows_ends text part).comp (follows_endsOfAll text rest)

theorem follows_endsOfSome (text : Array Char) (parts : List Regex) :
    Follows (endsOfSome text parts) (SpansSome text parts) := by
  cases parts with
  | nil =>
      exact fun places _ =>
        ⟨List.Pairwise.nil, fun j => by simp [endsOfSome, SpansSome]⟩
  | cons part rest =>
      exact (follows_ends text part).either (follows_endsOfSome text rest)

end

/-- A text has a match exactly if the expression spans two places of it. -/
theorem isMatch_iff (e : Regex) (text : String) :
    e.isMatch text = true ↔
      ∃ i ≤ text.toList.length, ∃ j, e.Spans text.toList.toArray i j := by
  have decreasing :
      Decreasing (List.range (text.toList.toArray.size + 1)).reverse :=
    List.pairwise_reverse.mpr List.pairwise_lt_range
  obtain ⟨-, reaches⟩ := follows_ends text.toList.toArray e _ decreasing
  rw [isMatch, Bool.not_eq_true', List.isEmpty_eq_false_iff_exists_mem]
  constructor
  · rintro ⟨j, isEnd⟩
    obtain ⟨i, isPlace, spans⟩ := (reaches j).mp isEnd
    exact ⟨i, by simpa [Nat.lt_succ_iff] using isPlace, j, spans⟩
  · rintro ⟨i, isPlace, j, spans⟩
    exact ⟨j,
      (reaches j).mpr ⟨i, by simpa [Nat.lt_succ_iff] using isPlace, spans⟩⟩

/-! ### Sequences -/

/-- Parts match in turn if the first of them do and then the others. -/
theorem spansAll_append {first second : List Regex} :
    SpansAll text (first ++ second) i j ↔
      ∃ k, SpansAll text first i k ∧ SpansAll text second k j := by
  induction first generalizing i with
  | nil => simp [SpansAll]
  | cons part rest hypothesis =>
      simp only [List.cons_append, SpansAll, hypothesis]
      grind

theorem spansAll_pieces (e : Regex) :
    SpansAll text e.pieces i j ↔ e.Spans text i j := by
  cases e <;> simp [pieces, SpansAll, Spans]

theorem spansAll_flatMap_pieces (parts : List Regex) :
    SpansAll text (parts.flatMap pieces) i j ↔ SpansAll text parts i j := by
  induction parts generalizing i with
  | nil => rfl
  | cons part rest hypothesis =>
      simp only [List.flatMap_cons, spansAll_append, spansAll_pieces,
        hypothesis, SpansAll]

/-- A literal matches in turn what its two halves do. -/
theorem spans_literal_append (first second : List Char) :
    (literal (first ++ second)).Spans text i j ↔
      ∃ k, (literal first).Spans text i k ∧
        (literal second).Spans text k j := by
  induction first generalizing i with
  | nil => simp [spans_literal_nil]
  | cons c rest hypothesis =>
      simp only [List.cons_append, spans_literal_cons, hypothesis]
      grind

/-- An expression that is put before others matches before them. -/
theorem spansAll_attach (e : Regex) (parts : List Regex) :
    SpansAll text (attach e parts) i j ↔ SpansAll text (e :: parts) i j := by
  unfold attach
  split
  · simp only [SpansAll, spans_literal_append]
    grind
  · rfl

/-- Expressions one after the other match in turn. -/
theorem spans_concat (parts : List Regex) :
    (concat parts).Spans text i j ↔ SpansAll text parts i j := by
  have attached : ∀ parts : List Regex,
      SpansAll text (parts.foldr attach []) i j ↔ SpansAll text parts i j := by
    intro parts
    induction parts generalizing i with
    | nil => rfl
    | cons part rest hypothesis =>
        rw [List.foldr_cons, spansAll_attach, SpansAll, SpansAll]
        simp only [hypothesis]
  rw [← spansAll_flatMap_pieces parts, ← attached, concat]
  generalize (parts.flatMap pieces).foldr attach [] = attached
  rcases attached with - | ⟨part, - | ⟨next, rest⟩⟩
  · rfl
  · simp [SpansAll]
  · rfl

end Regex
end SearchQuery
