import SearchQuery.Proofs.Globs
import SearchQuery.Proofs.Unread

/-!
# Expressions that cover a whole term

A pattern is spliced into the expression `^(?:…)$`, so that its matches cover a
whole term. This is right for every pattern that does not close the group which
is put around it. Then the pattern is an expression on its own, and a term is
accepted exactly if a match of that expression spans the term.

A pattern such as `a)|(?:b` closes the group and opens another one. It is no
expression, but the spliced text is one, and its matches need not cover a term.
-/

namespace SearchQuery

open Regex

namespace Regex

theorem toList_anchored (pattern : String) :
    (Matcher.anchored pattern).toList =
      '^' :: '(' :: '?' :: ':' :: (pattern.toList ++ [')', '$']) := by
  simp [Matcher.anchored]

theorem sequenceOf_anchored (own : Nested) :
    sequenceOf [some ⟨.assertion .textEnd, 0⟩, some (groupOf false own),
      some ⟨.assertion .textStart, 0⟩] =
        ⟨concat
          (.assertion .textStart :: [own.expression] ++ [.assertion .textEnd]),
          own.depth + 2⟩ := by
  simp [sequenceOf, groupOf, greatestDepth]

section Properties

variable [Properties] {pattern : String}

/-- Whether a closing parenthesis of a pattern closes no group of it. -/
def closesEarly (pattern : String) : Bool :=
  match alternatives? (2 * pattern.toList.length + 2) [] ⟨Flags.initial, [],
    pattern.toList⟩ with
  | some (_, state) => state.rest.head? = some ')'
  | none => false

/-- A pattern that closes a group which it has not opened is no expression. -/
theorem reading?_eq_none_of_closesEarly (closes : closesEarly pattern = true) :
    reading? pattern = none := by
  unfold closesEarly at closes
  unfold reading?
  split at closes
  · rename_i own state reads
    have remains : state.rest ≠ [] := by
      rintro isEmpty
      simp [isEmpty] at closes
    dsimp only
    rw [reads, Option.bind_some, if_neg fun whole => remains whole.1]
  · cases closes

/-- The second part of a spliced expression is the group around the pattern. -/
theorem parts?_group (fuel : Nat) (parts : Parts) (text : List Char) :
    parts? (fuel + 1) parts ⟨Flags.initial, [], '(' :: '?' :: ':' :: text⟩ =
      (alternatives? fuel [] ⟨Flags.initial, [], text⟩).bind
        fun (body, inner) =>
        match inner.rest with
        | ')' :: rest =>
            parts? fuel (some (groupOf false body) :: parts)
              ⟨Flags.initial, inner.names, rest⟩
        | _ => none := by
  rw [parts?_succ]
  have opens : opening? ⟨Flags.initial, [], '?' :: ':' :: text⟩ =
      some (.body false ⟨Flags.initial, [], text⟩) := by
    rw [opening?_flags (skipIgnored_false _) (by simp) (by simp)]
    with_unfolding_all rfl
  have skips : skipIgnored Flags.initial.extended ('(' :: '?' :: ':' :: text) =
      '(' :: '?' :: ':' :: text := skipIgnored_false _
  rw [skips]
  dsimp only
  rw [if_neg (by simp [endsSequence]), part?, opens, Option.bind_some,
    Option.bind_assoc]
  refine congrArg _ (funext fun read => ?_)
  obtain ⟨body, inner⟩ := read
  dsimp only
  split <;> simp [*]

/-- What is left behind the group of a spliced expression is the mark of the
end, unless the pattern closes the group. -/
theorem exists_alternatives?_of_splice
    {fuel : Nat}
    {own : Nested}
    {flags : Flags}
    {names : List String}
    {rest : List Char}
    (reads : alternatives? fuel [] ⟨Flags.initial, [],
      pattern.toList ++ [')', '$']⟩ =
      some (own, ⟨flags, names, ')' :: rest⟩))
    (staysOpen : closesEarly pattern = false) :
    rest = ['$'] ∧
      alternatives? (2 * pattern.toList.length + 2) [] ⟨Flags.initial, [],
        pattern.toList⟩ =
        some (own, ⟨flags, names, []⟩) := by
  have isSuffix : ')' :: rest <:+ pattern.toList ++ [')', '$'] :=
    (alternatives?_and_parts?_suffix fuel).1 reads
  have left : [')', '$'] <:+ ')' :: rest := by
    rcases List.suffix_or_suffix_of_suffix (List.suffix_append _ _)
      isSuffix with ends | short
    · exact ends
    · rcases List.suffix_cons_iff.mp short with whole | short
      · rw [whole]
      · simp [List.suffix_cons_iff] at short
  obtain ⟨before, isLeft⟩ := left
  rw [eq_comm] at isLeft
  rw [isLeft] at reads
  have unread :=
    (alternativesUnread_and_partsUnread fuel).1 reads (Nat.le_refl _)
  cases before with
  | nil => exact ⟨(List.cons.inj isLeft).2, unread⟩
  | cons c before =>
      rw [List.cons_append] at isLeft
      obtain ⟨rfl, -⟩ := List.cons.inj isLeft
      simp [closesEarly, unread] at staysOpen

/-- A pattern that does not close the group around it is an expression if the
spliced text is one, and this then is the expression of the pattern between the
ends of the text. -/
theorem exists_reading?_of_anchored
    {whole : Regex}
    (reads : reading? (Matcher.anchored pattern) = some whole)
    (staysOpen : closesEarly pattern = false) :
    ∃ own, reading? pattern = some own ∧
      whole =
        concat (.assertion .textStart :: [own] ++ [.assertion .textEnd]) := by
  obtain ⟨⟨result, state⟩, reads, read⟩ := Option.bind_eq_some_iff.mp reads
  obtain ⟨fuel, isFuel⟩ :
      ∃ fuel, 2 * (Matcher.anchored pattern).toList.length + 2 = fuel + 5 :=
    ⟨2 * pattern.toList.length + 9, by simp [toList_anchored]; omega⟩
  rw [isFuel, toList_anchored, alternatives?_succ, parts?_textStart,
    parts?_group] at reads
  obtain ⟨⟨last, state'⟩, readsParts, reads⟩ := Option.bind_eq_some_iff.mp reads
  obtain ⟨⟨own, flags, names, left⟩, readsOwn, readsParts⟩ :=
    Option.bind_eq_some_iff.mp readsParts
  dsimp only at readsParts
  split at readsParts
  · rename_i rest
    obtain ⟨rfl, isOwn⟩ := exists_alternatives?_of_splice readsOwn staysOpen
    rw [parts?_textEnd, sequenceOf_anchored] at readsParts
    obtain ⟨rfl, rfl⟩ := Prod.mk.inj (Option.some.inj readsParts)
    dsimp only at reads
    rw [if_pos rfl] at reads
    obtain ⟨rfl, rfl⟩ := Prod.mk.inj (Option.some.inj reads)
    dsimp only at read
    split at read
    · rename_i fits
      refine ⟨own.expression, ?_, (Option.some.inj read).symm⟩
      unfold reading?
      dsimp only
      rw [isOwn, Option.bind_some, if_pos ⟨rfl, Nat.le_of_add_right_le fits.2⟩]
    · cases read
  · cases readsParts

end Properties

end Regex

section Properties

variable [Properties]

/-- A regular expression that has a verdict is an expression on its own unless
it closes the group around it. As an expression on its own it accepts exactly
the terms that a match of it spans from the first to the last character. -/
theorem Matcher.accepts_regexp_iff_spans
    {pattern term : String}
    {accepted : Bool}
    (success : (Matcher.regexp pattern).accepts term = .ok accepted) :
    (reading? pattern = none ↔ closesEarly pattern = true) ∧
      ∀ own, reading? pattern = some own →
        (accepted = true ↔
          own.Spans term.toList.toArray 0 term.toList.length) := by
  obtain ⟨whole, admitted, rfl⟩ := exists_of_accepts_eq_ok rfl success
  rw [expression?, ofText?_eq_filter, Option.filter_eq_some_iff] at admitted
  cases closes : closesEarly pattern with
  | true =>
      have unread := reading?_eq_none_of_closesEarly closes
      refine ⟨iff_of_true unread rfl, fun own isOwn => ?_⟩
      rw [unread] at isOwn
      cases isOwn
  | false =>
      obtain ⟨own, isOwn, rfl⟩ := exists_reading?_of_anchored admitted.1 closes
      refine ⟨by simp [isOwn], fun other isOther => ?_⟩
      obtain rfl := Option.some.inj (isOwn.symm.trans isOther)
      rw [isMatch_anchored_iff]
      simp [SpansAll]

/-- A regular expression accepts what the admitted reading of the spliced text
matches. -/
theorem Matcher.accepts_regexp_eq
    {pattern : String}
    {whole : Regex}
    (reads : reading? (anchored pattern) = some whole)
    (admitted : whole.isAdmitted = true)
    (term : String) :
    (Matcher.regexp pattern).accepts term = .ok (whole.isMatch term) := by
  have known : (Matcher.regexp pattern).expression? = some whole := by
    rw [expression?, ofText?_eq_filter, reads, Option.filter_some,
      if_pos admitted]
  rw [accepts, predicate, expression, known]
  rfl

end Properties

theorem Matcher.accepts_regexp_iff_spans_choice :
    (Matcher.regexp "a|b").accepts "b" = .ok true ∧
      ∃ own, reading? "a|b" = some own ∧
        (true = true ↔ own.Spans "b".toList.toArray 0 "b".toList.length) := by
  have reads : reading? (anchored "a|b") =
      some (.sequence [.assertion .textStart, .set (.interval 'a' 'b'),
        .assertion .textEnd]) := by
    with_unfolding_all rfl
  have success : (Matcher.regexp "a|b").accepts "b" = .ok true :=
    accepts_regexp_eq reads rfl "b"
  have own : reading? "a|b" = some (.set (.interval 'a' 'b')) := by
    with_unfolding_all rfl
  exact ⟨success, _, own, (Matcher.accepts_regexp_iff_spans success).2 _ own⟩

/-- The pattern `a)|(?:b` is no expression and accepts terms nevertheless. -/
theorem Matcher.exists_accepts_regexp_of_reading?_eq_none :
    (Matcher.regexp "a)|(?:b").accepts "ax" = .ok true ∧
      reading? "a)|(?:b" = none := by
  have reads : reading? (anchored "a)|(?:b") = some (.choice
      [.sequence [.assertion .textStart, .literal ['a']],
        .sequence [.literal ['b'], .assertion .textEnd]]) := by
    with_unfolding_all rfl
  refine ⟨?_, reading?_eq_none_of_closesEarly (by decide +kernel)⟩
  rw [accepts_regexp_eq reads rfl]
  cbv

end SearchQuery
