import SearchQuery.Glob
import SearchQuery.Proofs.Readings

/-!
# What written patterns are read as

A pattern with wildcards is written as a regular expression in which every other
character is escaped where it needs to be. The reader gives back the sequence of
one expression for each character of the pattern, between the ends of the text.
-/

namespace SearchQuery

open Regex

namespace Regex

/-! ### Characters that stand for themselves -/

/-- No character is a surrogate. -/
theorem CharSet.characterRanges_toNat (c : Char) :
    characterRanges (c.toNat, c.toNat) = [(c.toNat, c.toNat)] := by
  have valid := c.valid
  simp only [UInt32.isValidChar, Nat.isValidChar] at valid
  change c.toNat < 0xD800 ∨ 0xDFFF < c.toNat ∧ c.toNat < 0x110000 at valid
  rcases valid with below | ⟨above, -⟩
  · have isLast : min c.toNat 0xD7FF = c.toNat := by omega
    have outside : ¬ max c.toNat 0xE000 ≤ c.toNat := by omega
    simp [characterRanges, isLast, outside]
  · have isFirst : max c.toNat 0xE000 = c.toNat := by omega
    have outside : ¬ c.toNat ≤ min c.toNat 0xD7FF := by omega
    simp [characterRanges, isFirst, outside]

theorem CharSet.single_eq (c : Char) :
    CharSet.single c = ⟨[(c.toNat, c.toNat)]⟩ := by
  simp [single, interval, ofRanges, insertAll, insert, characterRanges_toNat,
    insertRange, empty]

theorem ofSet_single (c : Char) : ofSet (.single c) = .literal [c] := by
  simp [ofSet, CharSet.single_eq, CharSet.single?, Char.ofNat_toNat]

/-- A character that means something has no meaning behind a backslash. -/
theorem escape?_of_isMeta
    [Properties]
    {c : Char}
    (means : isMeta c = true)
    (flags : Flags)
    (text : List Char) :
    escape? flags (c :: text) = some (.literal c, text) := by
  simp only [isMeta, List.contains_iff_mem, List.mem_cons, List.not_mem_nil,
    or_false] at means
  rcases means with
    rfl | rfl | rfl | rfl | rfl | rfl | rfl | rfl | rfl | rfl | rfl | rfl |
    rfl | rfl | rfl | rfl | rfl | rfl <;> rfl

/-! ### Depth -/

theorem greatestDepth_le
    {limit : Nat}
    {expressions : List Nested}
    (le : ∀ part ∈ expressions, part.depth ≤ limit) :
    greatestDepth expressions ≤ limit := by
  have grows : ∀ depth ≤ limit,
      expressions.foldl (fun depth part => max depth part.depth)
        depth ≤ limit := by
    induction expressions with
    | nil => exact fun _ within => within
    | cons part rest hypothesis =>
        obtain ⟨first, others⟩ := List.forall_mem_cons.mp le
        exact fun depth within =>
          hypothesis others _ (Nat.max_le.mpr ⟨within, first⟩)
  exact grows 0 (Nat.zero_le _)

/-- A sequence is nested at most one level deeper than its parts. -/
theorem depth_sequenceOf_le
    {limit : Nat}
    {parts : Parts}
    (le : ∀ part, some part ∈ parts → part.depth ≤ limit) :
    (sequenceOf parts).depth ≤ limit + 1 := by
  have within : greatestDepth (parts.reverse.filterMap id) ≤ limit := by
    refine greatestDepth_le fun part isPart => le part ?_
    simpa using isPart
  unfold sequenceOf
  dsimp only
  split <;> omega

end Regex

namespace Glob

/-- All characters but the line end. -/
def lineCharacters : CharSet := (CharSet.single '\n').complement

/-- The expression of one character of a pattern. -/
def symbolExpression (c : Char) : Regex :=
  if c = '*' then .repeated 0 none true (.set lineCharacters)
  else if c = '?' then .set lineCharacters
  else .literal [c]

/-- The expression that matches the texts of a pattern from end to end. -/
def expression (pattern : String) : Regex :=
  Regex.concat <|
    .assertion .textStart :: pattern.toList.map symbolExpression ++
      [.assertion .textEnd]

/-! ### Writing -/

/-- How one character of a pattern is written. -/
def symbolSource (c : Char) : List Char :=
  if isWildcard c then (wildcardSource c).toList else escapeCharacter c

/-- Literal runs are written character by character. -/
theorem toList_write (written literal : String) (pattern : List Char) :
    (write written literal pattern).toList =
      written.toList ++ literal.toList.flatMap escapeCharacter ++
        pattern.flatMap symbolSource ++ ['$'] := by
  induction pattern generalizing written literal with
  | nil => simp [write, escape]
  | cons c rest hypothesis =>
      rw [write]
      split
      · rename_i wild
        simp [hypothesis, escape, symbolSource, wild]
      · rename_i plain
        simp [hypothesis, symbolSource, plain]

theorem toList_source (pattern : String) :
    (source pattern).toList =
      '^' :: (pattern.toList.flatMap symbolSource ++ ['$']) := by
  simp [source, toList_write]

theorem length_le_length_flatMap_symbolSource (pattern : List Char) :
    pattern.length ≤ (pattern.flatMap symbolSource).length := by
  have written : ∀ c, 1 ≤ (symbolSource c).length := by
    intro c
    unfold symbolSource wildcardSource escapeCharacter
    split <;> split <;> simp
  induction pattern with
  | nil => exact Nat.le_refl _
  | cons c rest hypothesis =>
      have first := written c
      rw [List.flatMap_cons, List.length_append, List.length_cons]
      omega

/-! ### Reading -/

/-- No character is written with a question mark in front, so that the star of a
wildcard is read as greedy. -/
theorem head?_flatMap_symbolSource_ne (pattern : List Char) :
    (pattern.flatMap symbolSource ++ ['$']).head? ≠ some '?' := by
  cases pattern with
  | nil => simp
  | cons c rest =>
      simp only [List.flatMap_cons, List.append_assoc, symbolSource,
        wildcardSource, escapeCharacter]
      split
      · split <;> simp
      · split
        · simp
        · rename_i plain noMeta
          rintro same
          simp at same
          subst same
          exact noMeta rfl

section Steps

variable [Properties] (fuel : Nat) (parts : Parts) (text : List Char)

/-- The reader goes on behind a symbol, where no operator, group or set
begins. -/
theorem parts?_symbol
    {c : Char}
    {symbol : Symbol}
    {more : List Char}
    (begins : c ∉ ['|', ')', '(', '[', '?', '*', '+', '\x7b'])
    (reads : symbol? Flags.initial (c :: more) = some (symbol, text)) :
    parts? (fuel + 1) parts ⟨Flags.initial, [], c :: more⟩ =
      parts? fuel (some ⟨symbol.expression Flags.initial, 0⟩ :: parts)
        ⟨Flags.initial, [], text⟩ := by
  simp only [List.mem_cons, List.not_mem_nil, or_false, not_or] at begins
  have extended : Flags.initial.extended = false := rfl
  rw [parts?_succ]
  simp only [extended, skipIgnored_false]
  rw [if_neg (by simp [endsSequence, begins]), part?]
  · simp [reads]
  all_goals simp [begins]

theorem parts?_dot :
    parts? (fuel + 1) parts ⟨Flags.initial, [], '.' :: text⟩ =
      parts? fuel (some ⟨.set lineCharacters, 0⟩ :: parts)
        ⟨Flags.initial, [], text⟩ := by
  have isSet : (Symbol.set lineCharacters).expression Flags.initial =
      .set lineCharacters := rfl
  rw [← isSet]
  exact parts?_symbol fuel parts text (by decide) rfl

theorem parts?_escapeCharacter (c : Char) :
    parts? (fuel + 1) parts ⟨Flags.initial, [], escapeCharacter c ++ text⟩ =
      parts? fuel (some ⟨.literal [c], 0⟩ :: parts)
        ⟨Flags.initial, [], text⟩ := by
  have isLiteral : (Symbol.literal c).expression Flags.initial = .literal [c] :=
    ofSet_single c
  rw [← isLiteral, escapeCharacter]
  split
  · rename_i means
    exact parts?_symbol fuel parts text (by decide)
      (escape?_of_isMeta means _ text)
  · rename_i plain
    simp only [isMeta, List.contains_iff_mem, List.mem_cons,
      List.not_mem_nil, or_false, not_or] at plain
    refine parts?_symbol fuel parts text (by simp [plain]) ?_
    unfold symbol?
    split <;> simp_all

/-- A star repeats what is in front of it as often as possible. -/
theorem parts?_star (part : Nested) (noMark : text.head? ≠ some '?') :
    parts? (fuel + 1) (some part :: parts) ⟨Flags.initial, [], '*' :: text⟩ =
      parts? fuel
        (some ⟨part.expression.times 0 none true, part.depth + 1⟩ :: parts)
        ⟨Flags.initial, [], text⟩ := by
  have extended : Flags.initial.extended = false := rfl
  have unmarked : preferenceMark text = (false, text) := by
    unfold preferenceMark
    split
    · simp at noMark
    · rfl
  rw [parts?_succ]
  simp [extended, skipIgnored_false, endsSequence, part?, repeatLast?, unmarked]
  rfl

end Steps

/-- What one character of a pattern is read as. -/
def symbolPart (c : Char) : Nested :=
  ⟨symbolExpression c, if c = '*' then 1 else 0⟩

/-- A character of a pattern is read in at most two steps. -/
theorem exists_parts?_symbolSource
    [Properties]
    (fuel : Nat)
    (parts : Parts)
    (c : Char)
    {text : List Char}
    (noMark : text.head? ≠ some '?') :
    ∃ left, fuel ≤ left ∧
      parts? (fuel + 2) parts ⟨Flags.initial, [], symbolSource c ++ text⟩ =
        parts? left (some (symbolPart c) :: parts)
          ⟨Flags.initial, [], text⟩ := by
  unfold symbolSource symbolPart symbolExpression isWildcard wildcardSource
  by_cases star : c = '*'
  · subst star
    refine ⟨fuel, Nat.le_refl _, ?_⟩
    exact (parts?_dot (fuel + 1) parts _).trans
      (parts?_star fuel parts text _ noMark)
  by_cases mark : c = '?'
  · subst mark
    exact ⟨fuel + 1, Nat.le_succ _, parts?_dot (fuel + 1) parts text⟩
  · refine ⟨fuel + 1, Nat.le_succ _, ?_⟩
    simpa [star, mark] using parts?_escapeCharacter (fuel + 1) parts text c

/-- The characters of a pattern are read one after the other. -/
theorem parts?_flatMap_symbolSource
    [Properties]
    {fuel : Nat}
    (pattern : List Char)
    (enough : 2 * pattern.length + 2 ≤ fuel)
    (parts : Parts) :
    parts? fuel parts ⟨Flags.initial, [],
      pattern.flatMap symbolSource ++ ['$']⟩ =
      some (sequenceOf (some ⟨.assertion .textEnd, 0⟩ ::
        (pattern.map (some ∘ symbolPart)).reverse ++ parts), ⟨Flags.initial,
        [], []⟩) := by
  induction pattern generalizing fuel parts with
  | nil =>
      obtain ⟨fuel, rfl⟩ := Nat.exists_eq_add_of_le' enough
      exact parts?_textEnd fuel parts []
  | cons c rest hypothesis =>
      obtain ⟨fuel, rfl⟩ := Nat.exists_eq_add_of_le' enough
      have noMark := head?_flatMap_symbolSource_ne rest
      obtain ⟨left, atLeast, reads⟩ :=
        exists_parts?_symbolSource (fuel + (2 * rest.length + 2)) parts c noMark
      rw [List.flatMap_cons, List.append_assoc]
      refine (Eq.trans (by simp; rfl) reads).trans ?_
      rw [hypothesis (by omega)]
      simp

/-- The parts between the ends of the text, last first. -/
def sourceParts (pattern : List Char) : Parts :=
  some ⟨.assertion .textEnd, 0⟩ :: (pattern.map (some ∘ symbolPart)).reverse ++
    [some ⟨.assertion .textStart, 0⟩]

theorem depth_sequenceOf_sourceParts_le (pattern : List Char) :
    (sequenceOf (sourceParts pattern)).depth ≤ 2 := by
  refine depth_sequenceOf_le fun part isPart => ?_
  simp only [sourceParts, List.mem_append, List.mem_cons, List.mem_reverse,
    List.mem_map, Option.some.injEq, Function.comp, List.not_mem_nil,
    or_false] at isPart
  rcases isPart with (rfl | ⟨c, -, rfl⟩) | rfl
  · exact Nat.zero_le _
  · unfold symbolPart
    split <;> simp
  · exact Nat.zero_le _

theorem expression_sequenceOf_sourceParts (pattern : String) :
    (sequenceOf (sourceParts pattern.toList)).expression =
      expression pattern := by
  simp [sequenceOf, sourceParts, expression, symbolPart, Function.comp_def]

/-- The written pattern is read as the expression of the pattern. -/
theorem reading?_source [Properties] (pattern : String) :
    reading? (source pattern) = some (expression pattern) := by
  have long := length_le_length_flatMap_symbolSource pattern.toList
  have fits := Nat.le_trans (depth_sequenceOf_sourceParts_le pattern.toList)
    (show 2 ≤ depthLimit by decide)
  obtain ⟨fuel, isFuel, enough⟩ : ∃ fuel,
      2 * (source pattern).toList.length + 2 = fuel + 2 ∧
      2 * pattern.toList.length + 2 ≤ fuel := by
    refine ⟨_, rfl, ?_⟩
    simp only [toList_source, List.length_cons, List.length_append]
    omega
  have reads : alternatives? (2 * (source pattern).toList.length + 2) []
      ⟨Flags.initial, [], (source pattern).toList⟩ =
        some (sequenceOf (sourceParts pattern.toList),
          ⟨Flags.initial, [], []⟩) := by
    rw [isFuel, toList_source, alternatives?_succ, parts?_textStart,
      parts?_flatMap_symbolSource _ enough]
    rfl
  unfold reading?
  dsimp only
  rw [reads, Option.bind_some, if_pos ⟨rfl, fits⟩,
    expression_sequenceOf_sourceParts]

theorem expression?_eq_filter [Properties] (pattern : String) :
    expression? pattern = (some (expression pattern)).filter isAdmitted := by
  rw [expression?, ofText?_eq_filter, reading?_source]

end Glob
end SearchQuery
