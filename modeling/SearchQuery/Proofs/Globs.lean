import SearchQuery.Leaf.Pattern
import SearchQuery.Proofs.Admission
import SearchQuery.Proofs.Spans
import Mathlib.Data.List.Forall2
import Mathlib.Data.List.Permutation

/-!
# What wildcard patterns stand for

A pattern with wildcards stands for the texts that come of it if each star is
replaced by some characters, each question mark by one, and every other
character by itself. The expression of a pattern matches exactly those of them
for which no line end is put in place of a wildcard.
-/

namespace SearchQuery

open Regex

namespace Glob

/-- A text can be put in place of a character of a pattern, where wildcards
stand for some characters. -/
def Replaces (wild : Char → Prop) (c : Char) (text : List Char) : Prop :=
  if c = '*' then ∀ x ∈ text, wild x
  else if c = '?' then ∃ x, wild x ∧ text = [x]
  else text = [c]

/-- A term comes of a pattern if a text is put in place of each of its
characters. -/
def StandsFor (wild : Char → Prop) (pattern term : List Char) : Prop :=
  ∃ texts, List.Forall₂ (Replaces wild) pattern texts ∧ texts.flatten = term

section StandsFor

variable {wild : Char → Prop} {c : Char} {rest pattern term : List Char}

theorem standsFor_nil : StandsFor wild [] term ↔ [] = term := by
  simp [StandsFor]

/-- The text in place of the first character is followed by one for the
others. -/
theorem standsFor_cons :
    StandsFor wild (c :: rest) term ↔
      ∃ run more, Replaces wild c run ∧ StandsFor wild rest more ∧
        run ++ more = term := by
  constructor
  · rintro ⟨_, _ | @⟨_, run, _, texts, replaces, replace⟩, rfl⟩
    exact ⟨run, texts.flatten, replaces, ⟨texts, replace, rfl⟩, rfl⟩
  · rintro ⟨run, _, replaces, ⟨texts, replace, rfl⟩, rfl⟩
    exact ⟨run :: texts, .cons replaces replace, rfl⟩

/-- It does not matter which characters that are not in a term wildcards stand
for. -/
theorem standsFor_iff_of_forall (free : ∀ c ∈ term, wild c) :
    StandsFor wild pattern term ↔ StandsFor (fun _ => True) pattern term := by
  induction pattern generalizing term with
  | nil => simp only [standsFor_nil]
  | cons c rest hypothesis =>
      have replaces : ∀ run : List Char, (∀ x ∈ run, wild x) →
          (Replaces wild c run ↔ Replaces (fun _ => True) c run) := by
        intro run free
        unfold Replaces
        grind
      simp only [standsFor_cons]
      refine exists_congr fun run => exists_congr fun more => ?_
      constructor
      · rintro ⟨first, others, rfl⟩
        obtain ⟨freeRun, freeMore⟩ := List.forall_mem_append.mp free
        exact ⟨(replaces run freeRun).mp first,
          (hypothesis freeMore).mp others, rfl⟩
      · rintro ⟨first, others, rfl⟩
        obtain ⟨freeRun, freeMore⟩ := List.forall_mem_append.mp free
        exact ⟨(replaces run freeRun).mpr first,
          (hypothesis freeMore).mpr others, rfl⟩

theorem replaces_iff_of_not_isWildcard (plain : isWildcard c = false)
    (run : List Char) :
    Replaces wild c run ↔ run = [c] := by
  simp only [isWildcard, Bool.or_eq_false_iff, decide_eq_false_iff_not] at plain
  rw [Replaces, if_neg plain.1, if_neg plain.2]

/-- A pattern without wildcards stands only for itself. -/
theorem standsFor_iff_eq (plain : ∀ c ∈ pattern, isWildcard c = false) :
    StandsFor wild pattern term ↔ pattern = term := by
  induction pattern generalizing term with
  | nil => exact standsFor_nil
  | cons c rest hypothesis =>
      obtain ⟨plain, plainRest⟩ := List.forall_mem_cons.mp plain
      simp only [standsFor_cons, replaces_iff_of_not_isWildcard plain,
        hypothesis plainRest]
      grind

/-- Each text that a pattern stands for begins with what is in front of the
wildcards. -/
theorem prefix_of_standsFor (standsFor : StandsFor wild pattern term) :
    pattern.takeWhile (fun c => !isWildcard c) <+: term := by
  induction pattern generalizing term with
  | nil => exact List.nil_prefix
  | cons c rest hypothesis =>
      obtain ⟨run, more, replaces, others, rfl⟩ := standsFor_cons.mp standsFor
      cases plain : isWildcard c with
      | true => simp [plain]
      | false =>
          rw [replaces_iff_of_not_isWildcard plain] at replaces
          rw [replaces, List.takeWhile_cons_of_pos (by simp [plain]),
            List.singleton_append, List.cons_prefix_cons]
          exact ⟨rfl, hypothesis others⟩

end StandsFor

/-- All characters but one are in the set of those in a line. -/
theorem contains_lineCharacters (c : Char) :
    lineCharacters.contains c = true ↔ c ≠ '\n' := by
  have ranges :
      lineCharacters.ranges =
        [(0, 9), (11, 0xD7FF), (0xE000, 0x10FFFF)] := by decide
  have valid := c.valid
  have code : c ≠ '\n' ↔ c.toNat ≠ 10 := not_congr Char.toNat_inj.symm
  simp only [CharSet.contains, Text.inRanges, ranges, code]
  simp only [UInt32.isValidChar, Nat.isValidChar] at valid
  change c.toNat < 55296 ∨ 57343 < c.toNat ∧ c.toNat < 1114112 at valid
  simp
  omega

variable {text : Array Char} {i j : Nat}

/-- A round over characters of a set matches a literal of one of them. -/
theorem spans_set_iff (characters : CharSet) :
    (set characters).Spans text i j ↔
      ∃ c, characters.contains c = true ∧ (literal [c]).Spans text i j := by
  simp only [spans_literal_cons, spans_literal_nil]
  rw [Spans]
  cases text[i]? with
  | none => simp
  | some c =>
      simp only [Option.any_some, beq_iff_eq]
      grind

/-- Rounds over characters of a set match a literal of them. -/
theorem rounds_set_iff (characters : CharSet) (count : Nat) :
    Rounds ((set characters).Spans text) count i j ↔
      ∃ run : List Char, run.length = count ∧
        (∀ c ∈ run, characters.contains c = true) ∧
        (literal run).Spans text i j := by
  induction count generalizing i with
  | zero => simp [Rounds, spans_literal_nil]
  | succ count hypothesis =>
      simp only [Rounds, hypothesis, spans_set_iff]
      constructor
      · rintro ⟨k, ⟨c, isMember, first⟩, run, rfl, areMembers, more⟩
        exact ⟨c :: run, rfl, List.forall_mem_cons.mpr ⟨isMember, areMembers⟩,
          (spans_literal_append [c] run).mpr ⟨k, first, more⟩⟩
      · rintro ⟨_ | ⟨c, run⟩, length, areMembers, spans⟩
        · cases length
        · obtain ⟨isMember, areMembers⟩ := List.forall_mem_cons.mp areMembers
          obtain ⟨k, first, more⟩ := (spans_literal_append [c] run).mp spans
          exact ⟨k, ⟨c, isMember, first⟩, run, Nat.succ.inj length,
            areMembers, more⟩

/-- The expression of a character of a pattern matches what can be put in its
place. -/
theorem spans_symbolExpression (c : Char) :
    (symbolExpression c).Spans text i j ↔
      ∃ run, Replaces (· ≠ '\n') c run ∧ (literal run).Spans text i j := by
  unfold symbolExpression Replaces
  split
  · rw [Spans]
    simp only [rounds_set_iff, contains_lineCharacters]
    grind
  · split
    · simp only [spans_set_iff, contains_lineCharacters]
      grind
    · simp

/-- The expressions of the characters of a pattern match in turn the texts that
the pattern stands for. -/
theorem spansAll_symbolExpression (pattern : List Char) :
    SpansAll text (pattern.map symbolExpression) i j ↔
      ∃ term, StandsFor (· ≠ '\n') pattern term ∧
        (literal term).Spans text i j := by
  induction pattern generalizing i with
  | nil => simp [SpansAll, standsFor_nil, spans_literal_nil]
  | cons c rest hypothesis =>
      simp only [List.map_cons, SpansAll, spans_symbolExpression, hypothesis,
        standsFor_cons]
      constructor
      · rintro ⟨k, ⟨run, replaces, first⟩, others, standsFor, more⟩
        exact ⟨_, ⟨run, others, replaces, standsFor, rfl⟩,
          (spans_literal_append _ _).mpr ⟨k, first, more⟩⟩
      · rintro ⟨_, ⟨run, others, replaces, standsFor, rfl⟩, spans⟩
        obtain ⟨k, first, more⟩ := (spans_literal_append _ _).mp spans
        exact ⟨k, ⟨run, replaces, first⟩, others, standsFor, more⟩

/-- A literal matches a whole text only if it is the text. -/
theorem spans_literal_whole_iff (characters : List Char) :
    (literal characters).Spans text 0 text.size ↔ characters = text.toList := by
  rw [Spans, List.drop_zero, Nat.zero_add, ← Array.length_toList]
  constructor
  · rintro ⟨length, isPrefix⟩
    exact isPrefix.eq_of_length length.symm
  · rintro rfl
    exact ⟨rfl, List.prefix_rfl⟩

end Glob

namespace Regex

/-- An expression between the two ends of the text has a match exactly if it
spans the text. -/
theorem isMatch_anchored_iff (parts : List Regex) (text : String) :
    (concat (.assertion .textStart :: parts ++ [.assertion .textEnd])).isMatch
      text = true ↔
      SpansAll text.toList.toArray parts 0 text.toList.length := by
  simp only [isMatch_iff, spans_concat, List.cons_append, SpansAll,
    spansAll_append, Spans, Assertion.holds, beq_iff_eq, List.size_toArray]
  constructor
  · rintro ⟨i, -, j, _, ⟨rfl, rfl⟩, k, spans, _, ⟨rfl, rfl⟩, rfl⟩
    exact spans
  · intro spans
    exact ⟨0, Nat.zero_le _, _, 0, ⟨rfl, rfl⟩, _, spans, _, ⟨rfl, rfl⟩, rfl⟩

end Regex

namespace Glob

/-- The expression of a pattern matches the terms that the pattern stands for if
no wildcard stands for a line end. -/
theorem isMatch_expression_iff (pattern term : String) :
    (expression pattern).isMatch term = true ↔
      StandsFor (· ≠ '\n') pattern.toList term.toList := by
  rw [expression, isMatch_anchored_iff, spansAll_symbolExpression]
  have whole : ∀ characters,
      (literal characters).Spans term.toList.toArray 0 term.toList.length ↔
      characters = term.toList := spans_literal_whole_iff
  simp only [whole, exists_eq_right]

end Glob

section Properties

variable [Properties]

/-- A matcher that looks for matches of its expression has one if it gives a
verdict, and the verdict is whether there is a match. -/
theorem Matcher.exists_of_accepts_eq_ok
    {matcher : Matcher}
    {term : String}
    {accepted : Bool}
    (looks : matcher.predicate = matcher.expression.map fun e => e.isMatch)
    (success : matcher.accepts term = .ok accepted) :
    ∃ e, matcher.expression? = some e ∧ e.isMatch term = accepted := by
  rw [accepts, looks, expression] at success
  cases known : matcher.expression? with
  | none => rw [known] at success; cases success
  | some e => rw [known] at success; exact ⟨e, rfl, Except.ok.inj success⟩

/-- A pattern that is not very long has a verdict on each term. -/
theorem Matcher.accepts_glob_eq
    {pattern : String}
    (short : pattern.toList.length ≤ 10000)
    (term : String) :
    (Matcher.glob pattern).accepts term =
      .ok (if Glob.hasWildcards pattern then
        (Glob.expression pattern).isMatch term
        else term == pattern) := by
  rw [accepts, predicate]
  split
  · rw [expression, expression?, Glob.expression?_eq_filter, Option.filter_some,
      if_pos (Glob.isAdmitted_expression short)]
    rfl
  · rfl

/-- A pattern with wildcards accepts exactly the terms that come of it if
wildcards are replaced, no line end being put in their place. All of these begin
with what is in front of the wildcards. -/
theorem Matcher.accepts_glob_iff_standsFor
    {pattern term : String}
    {accepted : Bool}
    (success : (Matcher.glob pattern).accepts term = .ok accepted) :
    (accepted = true ↔ Glob.StandsFor (· ≠ '\n') pattern.toList term.toList) ∧
      ('\n' ∉ term.toList →
        (accepted = true ↔
          Glob.StandsFor (fun _ => True) pattern.toList term.toList)) ∧
      (accepted = true → ∀ stem, Glob.stem? pattern = some stem →
        stem.toList <+: term.toList) := by
  have standsFor : accepted = true ↔
      Glob.StandsFor (· ≠ '\n') pattern.toList term.toList := by
    cases wildcards : Glob.hasWildcards pattern with
    | true =>
        obtain ⟨e, admitted, rfl⟩ := exists_of_accepts_eq_ok
          (by rw [predicate, if_pos wildcards])
          success
        rw [expression?, Glob.expression?_eq_filter, Option.filter_eq_some_iff]
          at admitted
        obtain rfl := Option.some.inj admitted.1
        exact Glob.isMatch_expression_iff pattern term
    | false =>
        rw [accepts, predicate, if_neg (Bool.eq_false_iff.mp wildcards)]
          at success
        obtain rfl := Except.ok.inj success
        have plain : ∀ c ∈ pattern.toList, Glob.isWildcard c = false := by
          simpa [Glob.hasWildcards] using wildcards
        rw [Glob.standsFor_iff_eq plain, beq_iff_eq, String.toList_inj, eq_comm]
  refine ⟨standsFor, fun oneLine => standsFor.trans ?_,
    fun isAccepted stem isStem => ?_⟩
  · refine Glob.standsFor_iff_of_forall fun c isIn => ?_
    rintro rfl
    exact oneLine isIn
  · have isPrefix := Glob.prefix_of_standsFor (standsFor.mp isAccepted)
    unfold Glob.stem? at isStem
    split at isStem
    · cases isStem
    · obtain rfl := Option.some.inj isStem
      rwa [String.toList_ofList]

end Properties

theorem Matcher.accepts_glob_iff_standsFor_star :
    (Matcher.glob "a*b").accepts "axyb" = .ok true ∧
      Glob.StandsFor (fun _ => True) "a*b".toList "axyb".toList := by
  have success : (Matcher.glob "a*b").accepts "axyb" = .ok true := by
    rw [accepts_glob_eq (by decide), if_pos (by decide)]
    cbv
  exact ⟨success, ((accepts_glob_iff_standsFor success).2.1 (by decide)).mp rfl⟩

/-- A term of two lines comes of a pattern with a star and is not accepted. -/
theorem Matcher.exists_standsFor_of_accepts_glob_eq_false :
    (Matcher.glob "a*b").accepts "a\nb" = .ok false ∧
      Glob.StandsFor (fun _ => True) "a*b".toList "a\nb".toList := by
  have success : (Matcher.glob "a*b").accepts "a\nb" = .ok false := by
    rw [accepts_glob_eq (by decide), if_pos (by decide)]
    cbv
  exact ⟨success, [['a'], ['\n'], ['b']], by simp [Glob.Replaces], rfl⟩

end SearchQuery
