import SearchQuery.Regex.Reader
import Mathlib.Data.List.Infix
import Mathlib.Data.Option.Basic

/-!
# What readers leave

Each part of the reader of expressions leaves the end of the text that it is
given. What is left after a bracket, a group or an operator is shorter, so that
fuel of a little more than twice the length of the text is enough, and more fuel
changes nothing.
-/

namespace SearchQuery
namespace Regex

variable {flags : Flags} {extended : Bool} {text rest : List Char}

/-! ### Symbols -/

theorem skipComment_suffix (text : List Char) : skipComment text <:+ text := by
  induction text with
  | nil => exact List.suffix_rfl
  | cons c rest hypothesis =>
      rw [skipComment]
      split
      · exact List.suffix_cons c rest
      · exact hypothesis.trans (List.suffix_cons c rest)

theorem skipIgnored_suffix (extended : Bool) (text : List Char) :
    skipIgnored extended text <:+ text := by
  fun_induction skipIgnored extended text with
  | case1 => exact List.suffix_rfl
  | case2 c rest _ hypothesis =>
      exact hypothesis.trans (List.suffix_cons c rest)
  | case3 c rest _ _ hypothesis =>
      exact (hypothesis.trans (skipComment_suffix rest)).trans
        (List.suffix_cons c rest)
  | case4 => exact List.suffix_rfl

theorem takeExactly?_suffix
    {count : Nat}
    {taken : List Char}
    (reads : takeExactly? extended count text = some (taken, rest)) :
    rest <:+ text := by
  induction count generalizing text taken with
  | zero =>
      cases reads
      exact List.suffix_rfl
  | succ count hypothesis =>
      cases text with
      | nil => cases reads
      | cons c text =>
          obtain ⟨⟨more, rest⟩, reads, ⟨⟩⟩ := Option.map_eq_some_iff.mp reads
          exact ((hypothesis reads).trans
            (skipIgnored_suffix extended text)).trans
            (List.suffix_cons c text)

theorem takeToBrace?_suffix
    {taken : List Char}
    (reads : takeToBrace? extended text = some (taken, rest)) :
    rest <:+ text := by
  have left := fun text => skipIgnored_suffix extended text
  fun_induction takeToBrace? extended text generalizing taken with
  | case1 => cases reads
  | case2 text more skipped =>
      cases reads
      exact (left more).trans
        ((List.suffix_cons _ more).trans (skipped ▸ left text))
  | case3 text c more _ skipped hypothesis =>
      obtain ⟨⟨others, rest⟩, reads, ⟨⟩⟩ := Option.map_eq_some_iff.mp reads
      exact (hypothesis reads).trans
        ((List.suffix_cons c more).trans (skipped ▸ left text))

theorem boundary?_suffix
    {symbol : Symbol}
    (reads : boundary? flags text = some (symbol, rest)) :
    rest <:+ text := by
  unfold boundary? at reads
  dsimp only at reads
  split at reads
  · rename_i more
    split at reads
    · cases reads
    · split at reads
      · simp only [Option.bind_eq_bind, Option.bind_eq_some_iff] at reads
        obtain ⟨⟨name, rest⟩, takes, _, -, condition, -, ⟨⟩⟩ := reads
        exact (takeToBrace?_suffix takes).trans (List.suffix_cons _ more)
      · cases reads
        exact List.suffix_rfl
  · cases reads
    exact List.suffix_rfl

theorem hexEscape?_suffix
    {count : Nat}
    {symbol : Symbol}
    (reads : hexEscape? flags count text = some (symbol, rest)) :
    rest <:+ text := by
  have left := skipIgnored_suffix flags.extended text
  unfold hexEscape? at reads
  split at reads
  · rename_i more skipped
    simp only [Option.bind_eq_bind, Option.bind_eq_some_iff] at reads
    obtain ⟨⟨digits, rest⟩, takes, c, -, ⟨⟩⟩ := reads
    exact (takeToBrace?_suffix takes).trans
      ((List.suffix_cons _ more).trans (skipped ▸ left))
  · simp only [Option.bind_eq_bind, Option.bind_eq_some_iff] at reads
    obtain ⟨⟨digits, rest⟩, takes, c, -, _, -, ⟨⟩⟩ := reads
    exact (takeExactly?_suffix takes).trans left

/-- The range between two items, which must be characters in order. -/
def itemRange? (flags : Flags) : Symbol → Symbol → Option CharSet
  | .literal a, .literal b =>
      if a ≤ b ∧ (flags.unicode ∨ b.toNat < 0x80) then some (.interval a b)
      else none
  | _, _ => none

section Properties

variable [Properties]

theorem propertyEscape?_suffix
    {negated : Bool}
    {symbol : Symbol}
    (reads : propertyEscape? flags negated text = some (symbol, rest)) :
    rest <:+ text := by
  have left := skipIgnored_suffix flags.extended text
  unfold propertyEscape? at reads
  simp only [Option.bind_eq_bind] at reads
  split at reads
  · cases reads
  · cases reads
  · rename_i more skipped
    obtain ⟨⟨name, rest⟩, takes, reads⟩ := Option.bind_eq_some_iff.mp reads
    obtain ⟨characters, -, ⟨⟩⟩ := Option.bind_eq_some_iff.mp reads
    exact (takeToBrace?_suffix takes).trans
      ((List.suffix_cons _ more).trans (skipped ▸ left))
  · rename_i letter more _ _ skipped
    obtain ⟨characters, -, ⟨⟩⟩ := Option.bind_eq_some_iff.mp reads
    exact (skipIgnored_suffix flags.extended more).trans
      ((List.suffix_cons letter more).trans (skipped ▸ left))

/-- An escape is one by hexadecimal digits, or a word boundary, or a property,
or known from its character. -/
theorem escape?_cons (flags : Flags) (c : Char) :
    (∃ count, ∀ text, escape? flags (c :: text) = hexEscape? flags count text) ∨
      (∀ text, escape? flags (c :: text) = boundary? flags text) ∨
      (∃ negated, ∀ text,
        escape? flags (c :: text) = propertyEscape? flags negated text) ∨
      ∃ symbol : Option Symbol, ∀ text,
        escape? flags (c :: text) = symbol.map fun symbol =>
          (symbol, text) := by
  by_cases digits : c = 'x' ∨ c = 'u' ∨ c = 'U'
  · rcases digits with rfl | rfl | rfl
    · exact .inl ⟨2, fun _ => rfl⟩
    · exact .inl ⟨4, fun _ => rfl⟩
    · exact .inl ⟨8, fun _ => rfl⟩
  by_cases boundary : c = 'b'
  · subst boundary
    exact .inr (.inl fun _ => rfl)
  by_cases property : c = 'p' ∨ c = 'P'
  · rcases property with rfl | rfl
    · exact .inr (.inr (.inl ⟨false, fun _ => rfl⟩))
    · exact .inr (.inr (.inl ⟨true, fun _ => rfl⟩))
  · refine .inr (.inr (.inr ⟨(escape? flags [c]).map Prod.fst, fun text => ?_⟩))
    unfold escape?
    dsimp only
    split <;> simp_all [Function.comp_def, apply_ite]

/-- An escape is at least one character. -/
theorem escape?_cons_suffix
    {c : Char}
    {symbol : Symbol}
    (reads : escape? flags (c :: text) = some (symbol, rest)) :
    rest <:+ text := by
  rcases escape?_cons flags c with
    ⟨count, digits⟩ | boundary | ⟨negated, property⟩ |
    ⟨symbol, known⟩
  · exact hexEscape?_suffix (digits text ▸ reads)
  · exact boundary?_suffix (boundary text ▸ reads)
  · exact propertyEscape?_suffix (property text ▸ reads)
  · obtain ⟨_, -, ⟨⟩⟩ := Option.map_eq_some_iff.mp
      ((known text).symm.trans reads)
    exact List.suffix_rfl

theorem escape?_suffix
    {symbol : Symbol}
    (reads : escape? flags text = some (symbol, rest)) :
    rest <:+ text := by
  cases text with
  | nil => cases reads
  | cons c text =>
      exact (escape?_cons_suffix reads).trans (List.suffix_cons c text)

/-- A symbol is an escape or known from its character. -/
theorem symbol?_cons (flags : Flags) (c : Char) :
    (∀ text, symbol? flags (c :: text) = escape? flags text) ∨
      ∃ symbol : Option Symbol, ∀ text,
        symbol? flags (c :: text) = symbol.map fun symbol =>
          (symbol, text) := by
  by_cases escaped : c = '\\'
  · subst escaped
    exact .inl fun _ => rfl
  · refine .inr ⟨(symbol? flags [c]).map Prod.fst, fun text => ?_⟩
    unfold symbol?
    split <;> simp_all [Function.comp_def]

/-- A symbol is at least one character. -/
theorem symbol?_suffix
    {c : Char}
    {symbol : Symbol}
    (reads : symbol? flags (c :: text) = some (symbol, rest)) :
    rest <:+ text := by
  rcases symbol?_cons flags c with escaped | ⟨symbol, known⟩
  · exact escape?_suffix (escaped text ▸ reads)
  · obtain ⟨_, -, ⟨⟩⟩ := Option.map_eq_some_iff.mp
      ((known text).symm.trans reads)
    exact List.suffix_rfl

/-! ### Sets in brackets -/

/-- An item is at least one character. -/
theorem setItem?_cons_suffix
    {c : Char}
    {symbol : Symbol}
    (reads : setItem? flags (c :: text) = some (symbol, rest)) :
    rest <:+ text := by
  by_cases escaped : c = '\\'
  · subst escaped
    exact escape?_suffix reads
  · simp only [setItem?, Option.some.injEq, Prod.mk.injEq] at reads
    rw [reads.2]

theorem setItem?_suffix
    {symbol : Symbol}
    (reads : setItem? flags text = some (symbol, rest)) :
    rest <:+ text := by
  cases text with
  | nil => cases reads
  | cons c text =>
      exact (setItem?_cons_suffix reads).trans (List.suffix_cons c text)

/-- What an item and the text behind it are: a range if a hyphen and an item
follow, and otherwise the item alone. -/
def rangeEnd? (flags : Flags) (first : Symbol) (text : List Char) :
    Option (CharSet × List Char) :=
  match text with
  | [] => none
  | '-' :: more =>
      (decidingCharacter? flags.extended more).bind fun next =>
        if next = ']' ∨ next = '-' then
          (first.itemSet? flags).map fun characters => (characters, text)
        else
          (setItem? flags (skipIgnored flags.extended more)).bind
            fun (last, rest) =>
            (itemRange? flags first last).map fun characters =>
              (characters, rest)
  | _ => (first.itemSet? flags).map fun characters => (characters, text)

theorem setRange?_eq (flags : Flags) (text : List Char) :
    setRange? flags text =
      (setItem? flags text).bind fun (first, rest) =>
        rangeEnd? flags first (skipIgnored flags.extended rest) := by
  unfold setRange? rangeEnd?
  simp only [Option.bind_eq_bind]
  refine congrArg _ (funext fun item => ?_)
  obtain ⟨first, rest⟩ := item
  dsimp only
  generalize skipIgnored flags.extended rest = behind
  split
  · rfl
  · refine congrArg _ (funext fun next => ?_)
    split
    · rfl
    · refine congrArg _ (funext fun last => ?_)
      obtain ⟨last, rest⟩ := last
      cases first <;> cases last <;> try rfl
      simp only [itemRange?]
      rw [guard]
      split <;> rfl
  · simp_all

theorem rangeEnd?_suffix
    {first : Symbol}
    {characters : CharSet}
    (reads : rangeEnd? flags first text = some (characters, rest)) :
    rest <:+ text := by
  unfold rangeEnd? at reads
  split at reads
  · cases reads
  · rename_i more
    obtain ⟨next, -, reads⟩ := Option.bind_eq_some_iff.mp reads
    split at reads
    · obtain ⟨_, -, ⟨⟩⟩ := Option.map_eq_some_iff.mp reads
      exact List.suffix_rfl
    · obtain ⟨⟨last, rest⟩, readsLast,
          reads⟩ := Option.bind_eq_some_iff.mp reads
      obtain ⟨_, -, ⟨⟩⟩ := Option.map_eq_some_iff.mp reads
      exact ((setItem?_suffix readsLast).trans
        (skipIgnored_suffix _ more)).trans
        (List.suffix_cons '-' more)
  · obtain ⟨_, -, ⟨⟩⟩ := Option.map_eq_some_iff.mp reads
    exact List.suffix_rfl

theorem setRange?_suffix
    {c : Char}
    {characters : CharSet}
    (reads : setRange? flags (c :: text) = some (characters, rest)) :
    rest <:+ text := by
  rw [setRange?_eq] at reads
  obtain ⟨⟨first, left⟩, readsFirst, reads⟩ := Option.bind_eq_some_iff.mp reads
  exact ((rangeEnd?_suffix reads).trans
    (skipIgnored_suffix flags.extended left)).trans
    (setItem?_cons_suffix readsFirst)

end Properties

/-- Whether a mark of negation stands at the start of a text, and the text after
it. -/
def negationMark : List Char → Bool × List Char
  | '^' :: rest => (true, rest)
  | text => (false, text)

theorem negationMark_of_forall_ne (plain : ∀ rest, text ≠ '^' :: rest) :
    negationMark text = (false, text) := by
  unfold negationMark
  split
  · exact absurd rfl (plain _)
  · rfl

theorem negationMark_suffix (text : List Char) :
    (negationMark text).2 <:+ text := by
  unfold negationMark
  split
  · exact List.suffix_cons '^' _
  · exact List.suffix_rfl

/-- The name of a set ends with a colon and a bracket. -/
theorem namedSet?_colon (text : List Char) :
    namedSet? (':' :: text) =
      match (negationMark text).2.dropWhile (· ≠ ':') with
      | ':' :: ']' :: rest =>
          (CharSet.named?
            (String.ofList ((negationMark text).2.takeWhile (· ≠ ':')))).bind
            fun characters => some (⟨characters, (negationMark text).1⟩, rest)
      | _ => none := by
  by_cases marked : ∃ rest, text = '^' :: rest
  · obtain ⟨rest, rfl⟩ := marked
    unfold namedSet? negationMark
    simp only [Option.bind_eq_bind]
    rfl
  · have plain := not_exists.mp marked
    rw [negationMark_of_forall_ne plain, namedSet?]
    · rfl
    · exact plain

theorem namedSet?_suffix
    {named : NamedSet}
    (reads : namedSet? text = some (named, rest)) :
    rest <:+ text := by
  have isNamed := reads
  unfold namedSet? at isNamed
  split at isNamed
  · rename_i text
    rw [namedSet?_colon] at reads
    split at reads
    · rename_i more drops
      obtain ⟨_, -, ⟨⟩⟩ := Option.bind_eq_some_iff.mp reads
      have left : ':' :: ']' :: rest <:+ (negationMark text).2 :=
        drops ▸ List.dropWhile_suffix _
      exact ((((List.suffix_cons _ _).trans (List.suffix_cons _ _)).trans
        left).trans
        (negationMark_suffix text)).trans (List.suffix_cons ':' text)
    · cases reads
  · cases isNamed

theorem leadingHyphens_suffix (extended : Bool) (state : SetState)
    (text : List Char) :
    (leadingHyphens extended state text).2 <:+ text := by
  fun_induction leadingHyphens extended state text with
  | case1 state rest hypothesis =>
      exact (hypothesis.trans (skipIgnored_suffix extended rest)).trans
        (List.suffix_cons '-' rest)
  | case2 => exact List.suffix_rfl

/-- Whether a set is negated, and the text with its items. -/
def setMark (flags : Flags) (text : List Char) : Bool × List Char :=
  let marked := negationMark (skipIgnored flags.extended text)
  (marked.1, if marked.1 then skipIgnored flags.extended marked.2 else marked.2)

/-- The first items of a set, which are a closing bracket or hyphens. -/
def firstItems (flags : Flags) : List Char → SetState × List Char
  | ']' :: rest =>
      (SetState.empty.addCharacters (.single ']'),
        skipIgnored flags.extended rest)
  | text => leadingHyphens flags.extended .empty text

/-- A set opens with its mark of negation and its first items. -/
theorem setOpening_eq (flags : Flags) (text : List Char) :
    setOpening flags text =
      ((setMark flags text).1, firstItems flags (setMark flags text).2) := by
  unfold setOpening setMark firstItems
  dsimp only
  generalize skipIgnored flags.extended text = text
  by_cases marked : ∃ rest, text = '^' :: rest
  · obtain ⟨rest, rfl⟩ := marked
    simp only [negationMark, if_true]
    split <;> simp_all
  · have plain := not_exists.mp marked
    rw [negationMark_of_forall_ne plain]
    simp only [Bool.false_eq_true, if_false]
    split <;> simp_all

theorem setMark_suffix (flags : Flags) (text : List Char) :
    (setMark flags text).2 <:+ text := by
  have left :=
    (negationMark_suffix _).trans (skipIgnored_suffix flags.extended text)
  unfold setMark
  dsimp only
  split
  · exact (skipIgnored_suffix _ _).trans left
  · exact left

theorem firstItems_suffix (flags : Flags) (text : List Char) :
    (firstItems flags text).2 <:+ text := by
  unfold firstItems
  split
  · rename_i rest
    exact (skipIgnored_suffix _ rest).trans (List.suffix_cons ']' rest)
  · exact leadingHyphens_suffix _ _ _

theorem setOpening_suffix (flags : Flags) (text : List Char) :
    (setOpening flags text).2.2 <:+ text := by
  rw [setOpening_eq]
  exact (firstItems_suffix flags _).trans (setMark_suffix flags text)

section Properties

variable [Properties]

/-- Read one member of a set, which is an operator, an item or a range, a named
set, or a set that is read by another reader. -/
def setMember? (flags : Flags)
    (inner : Bool → SetState → List Char → Option (NestedSet × List Char))
    (state : SetState) :
    List Char → Option (SetState × List Char)
  | '[' :: rest =>
      match namedSet? rest with
      | some (named, rest) =>
          (named.value? flags).map fun characters =>
            (state.addCharacters characters, rest)
      | none =>
          let (negated, innerState, more) := setOpening flags rest
          (inner negated innerState more).map fun (nested, rest) =>
            (state.add nested, rest)
  | '&' :: '&' :: rest => some (state.operator flags .inter, rest)
  | '-' :: '-' :: rest => some (state.operator flags .difference, rest)
  | '~' :: '~' :: rest => some (state.operator flags .symmetricDifference, rest)
  | text =>
      (setRange? flags text).map fun (characters, rest) =>
        (state.addCharacters characters, rest)

/-- A set goes on with a member in front of its closing bracket. -/
theorem setBody?_succ (flags : Flags) (negated : Bool) (fuel : Nat)
    (state : SetState)
    (text : List Char) :
    setBody? flags negated (fuel + 1) state text =
      match skipIgnored flags.extended text with
      | [] => none
      | c :: rest =>
          if c = ']' then (state.close? flags negated).map fun set =>
            (set, rest)
          else
            (setMember? flags (fun negated => setBody? flags negated fuel) state
              (c :: rest)).bind
              fun (state, rest) => setBody? flags negated fuel state rest := by
  rw [setBody?]
  generalize skipIgnored flags.extended text = text
  simp only [Option.bind_eq_bind]
  split
  case h_1 | h_3 | h_4 | h_5 | h_6 => rfl
  case h_2 rest =>
    dsimp only
    rw [if_neg (by decide)]
    rw [setMember?]
    cases namedSet? rest <;> simp only [Option.bind_map, Function.comp_def]
  case h_7 plain =>
    cases text with
    | nil => simp_all
    | cons c text =>
        dsimp only
        rw [if_neg (by simp_all)]
        unfold setMember?
        split
        any_goals simp_all
        rw [Option.bind_map]
        rfl

theorem setMember?_suffix
    {inner : Bool → SetState → List Char → Option (NestedSet × List Char)}
    {state longer : SetState}
    {c : Char}
    (innerLeft : ∀ {negated state text nested rest},
      inner negated state text = some (nested, rest) → rest <:+ text)
    (reads : setMember? flags inner state (c :: text) = some (longer, rest)) :
    rest <:+ text := by
  unfold setMember? at reads
  split at reads
  · rename_i heading
    cases heading
    split at reads
    · rename_i named left isNamed
      obtain ⟨_, -, ⟨⟩⟩ := Option.map_eq_some_iff.mp reads
      exact namedSet?_suffix isNamed
    · obtain ⟨⟨nested, left⟩, readsInner, ⟨⟩⟩ := Option.map_eq_some_iff.mp reads
      exact (innerLeft readsInner).trans (setOpening_suffix flags text)
  iterate 3
    · rename_i left heading
      cases heading
      cases reads
      exact List.suffix_cons _ rest
  · obtain ⟨⟨characters, left⟩, readsRange,
        ⟨⟩⟩ := Option.map_eq_some_iff.mp reads
    exact setRange?_suffix readsRange

/-- What follows a bracketed set is left behind its closing bracket. -/
theorem setBody?_suffix
    {negated : Bool}
    {fuel : Nat}
    {state : SetState}
    {nested : NestedSet}
    (reads : setBody? flags negated fuel state text = some (nested, rest)) :
    ']' :: rest <:+ text := by
  induction fuel generalizing negated state text nested rest with
  | zero => cases reads
  | succ fuel hypothesis =>
      refine List.IsSuffix.trans ?_ (skipIgnored_suffix flags.extended text)
      rw [setBody?_succ] at reads
      split at reads
      · cases reads
      · rename_i c more skipped
        rw [skipped]
        split at reads
        · rename_i closes
          obtain ⟨_, -, ⟨⟩⟩ := Option.map_eq_some_iff.mp reads
          rw [closes]
        · obtain ⟨⟨longer, left⟩, readsMember,
              reads⟩ := Option.bind_eq_some_iff.mp reads
          have member := setMember?_suffix
            (fun reads => (List.suffix_cons ']' _).trans (hypothesis reads))
              readsMember
          exact ((hypothesis reads).trans member).trans
            (List.suffix_cons c more)

theorem bracketed?_suffix
    {fuel : Nat}
    {set : NestedSet}
    (reads : bracketed? flags fuel text = some (set, rest)) :
    rest <:+ text :=
  ((List.suffix_cons ']' rest).trans (setBody?_suffix reads)).trans
    (setOpening_suffix flags text)

end Properties

/-! ### Operators and groups -/

theorem trimLeft_suffix (text : List Char) : Text.trimLeft text <:+ text :=
  List.dropWhile_suffix _

theorem takeDigits_suffix (extended : Bool) (text : List Char) :
    (takeDigits extended text).2 <:+ text := by
  fun_induction takeDigits extended text with
  | case1 => exact List.suffix_rfl
  | case2 c more _ digits rest reads hypothesis =>
      rw [reads] at hypothesis
      exact (hypothesis.trans (skipIgnored_suffix extended more)).trans
        (List.suffix_cons c more)
  | case3 => exact List.suffix_rfl

theorem countNumber?_suffix
    {count : Nat}
    (reads : countNumber? extended text = some (count, rest)) :
    rest <:+ text := by
  obtain ⟨_, -, ⟨⟩⟩ := Option.bind_eq_some_iff.mp reads
  exact (((skipIgnored_suffix extended _).trans (trimLeft_suffix _)).trans
    (takeDigits_suffix extended _)).trans (trimLeft_suffix text)

/-- The greatest count of a repetition after its comma, where there need be
none. -/
def upperCount? (extended : Bool) : List Char → Option (Option Nat × List Char)
  | '\x7d' :: rest => some (none, '\x7d' :: rest)
  | rest =>
      (countNumber? extended rest).map fun (most, rest) => (some most, rest)

/-- The greatest count of a repetition, after the least one. -/
def mostCount? (extended : Bool) (least : Nat) :
    List Char → Option (Option Nat × List Char)
  | ',' :: rest => upperCount? extended (skipIgnored extended rest)
  | rest => some (some least, rest)

/-- The text after the closing brace of a repetition. -/
def countsEnd? (extended : Bool) : List Char → Option (List Char)
  | '\x7d' :: rest => some (skipIgnored extended rest)
  | _ => none

/-- Counts are a number, perhaps another behind a comma, and a brace. -/
theorem counts?_eq (flags : Flags) (text : List Char) :
    counts? flags text =
      (countNumber? flags.extended (skipIgnored flags.extended text)).bind
        fun (least, rest) =>
        (mostCount? flags.extended least rest).bind fun (most, rest) =>
          (countsEnd? flags.extended rest).bind fun rest =>
            if most.all (least ≤ ·) then some (least, most, rest)
            else none := by
  unfold counts?
  simp only [Option.bind_eq_bind]
  refine congrArg _ (funext fun least => ?_)
  obtain ⟨least, rest⟩ := least
  have guarded : ∀ (most : Option Nat) (rest : List Char),
      ((guard (most.all (least ≤ ·) = true) : Option Unit).bind fun _ =>
        some (least, most, rest)) =
          if most.all (least ≤ ·) then some (least, most, rest) else none := by
    intro most rest
    rw [guard]
    split <;> rfl
  dsimp only
  split
  · rename_i more
    rw [mostCount?]
    split
    · rename_i left skipped
      rw [skipped, upperCount?]
      exact guarded none _
    · rename_i noBrace
      rw [upperCount?.eq_2 _ _ noBrace]
      refine congrArg _ (funext fun most => ?_)
      split
      · rename_i left closes
        rw [closes, countsEnd?]
        exact guarded most.1 _
      · rename_i unclosed
        rw [countsEnd?.eq_2 _ _ unclosed]
        rfl
  · rename_i noComma
    rw [mostCount?.eq_2 _ _ _ noComma]
    simp only [Option.bind_some]
    split
    · exact guarded (some least) _
    · rename_i unclosed
      rw [countsEnd?.eq_2 _ _ unclosed]
      rfl

theorem upperCount?_suffix
    {most : Option Nat}
    (reads : upperCount? extended text = some (most, rest)) :
    rest <:+ text := by
  unfold upperCount? at reads
  split at reads
  · cases reads
    exact List.suffix_rfl
  · obtain ⟨⟨most, rest⟩, reads, ⟨⟩⟩ := Option.map_eq_some_iff.mp reads
    exact countNumber?_suffix reads

theorem mostCount?_suffix
    {least : Nat}
    {most : Option Nat}
    (reads : mostCount? extended least text = some (most, rest)) :
    rest <:+ text := by
  unfold mostCount? at reads
  split at reads
  · rename_i more
    exact ((upperCount?_suffix reads).trans
      (skipIgnored_suffix extended more)).trans
      (List.suffix_cons ',' more)
  · cases reads
    exact List.suffix_rfl

theorem countsEnd?_suffix (reads : countsEnd? extended text = some rest) :
    rest <:+ text := by
  unfold countsEnd? at reads
  split at reads
  · rename_i more
    cases reads
    exact (skipIgnored_suffix extended more).trans (List.suffix_cons _ more)
  · cases reads

theorem counts?_suffix
    {least : Nat}
    {most : Option Nat}
    (reads : counts? flags text = some (least, most, rest)) :
    rest <:+ text := by
  rw [counts?_eq] at reads
  simp only [Option.bind_eq_some_iff] at reads
  obtain ⟨⟨least, behind⟩, readsLeast, ⟨most, more⟩, readsMost, left, closes,
      reads⟩ := reads
  split at reads
  · cases reads
    exact (((countsEnd?_suffix closes).trans
      (mostCount?_suffix readsMost)).trans
      (countNumber?_suffix readsLeast)).trans
        (skipIgnored_suffix flags.extended text)
  · cases reads

theorem preferenceMark_suffix (text : List Char) :
    (preferenceMark text).2 <:+ text := by
  unfold preferenceMark
  split
  · exact List.suffix_cons '?' _
  · exact List.suffix_rfl

theorem repeatLast?_suffix
    {least : Nat}
    {most : Option Nat}
    {parts repeated : Parts}
    {state next : State}
    (reads : repeatLast? least most parts state text = some (repeated, next)) :
    next.rest <:+ text := by
  unfold repeatLast? at reads
  split at reads
  · cases reads
    exact preferenceMark_suffix text
  · cases reads

theorem flagLetters?_suffix
    {on someFlags : Bool}
    {seen : List Char}
    {switched : Flags}
    (reads : flagLetters? flags on seen text =
      some (switched, someFlags, rest)) :
    rest <:+ text := by
  fun_induction flagLetters? flags on seen text
    generalizing switched someFlags with
  | case1 => cases reads
  | case2 => cases reads
  | case3 =>
      cases reads
      exact List.suffix_rfl
  | case4 => cases reads
  | case5 =>
      cases reads
      exact List.suffix_rfl
  | case6 => cases reads
  | case7 flags on seen more _ hypothesis =>
      exact (hypothesis reads).trans (List.suffix_cons _ more)
  | case8 => cases reads
  | case9 flags on seen c more _ _ _ _ _ _ hypothesis =>
      exact (hypothesis reads).trans (List.suffix_cons c more)
  | case10 => cases reads

theorem groupName?_suffix
    {names : List String}
    {name : String}
    (reads : groupName? names text = some (name, rest)) :
    rest <:+ text := by
  unfold groupName? at reads
  simp only [Option.bind_eq_bind] at reads
  split at reads
  · rename_i c more drops
    simp only [Option.bind_eq_some_iff] at reads
    obtain ⟨_, ⟨⟩, _, -, _, -, _, -, _, -, ⟨⟩⟩ := reads
    exact (List.suffix_cons c rest).trans (drops ▸ List.dropWhile_suffix _)
  · cases reads

/-- The text that is left after the opening of a group. -/
def Opening.left : Opening → List Char
  | .switch _ left => left
  | .body _ state => state.rest

theorem opening?_suffix
    {state : State}
    {opening : Opening}
    (reads : opening? state = some opening) :
    opening.left <:+ state.rest := by
  refine List.IsSuffix.trans ?_
    (skipIgnored_suffix state.flags.extended state.rest)
  unfold opening? at reads
  dsimp only at reads
  generalize skipIgnored state.flags.extended state.rest = text at *
  have named : ∀ {text : List Char},
      ((groupName? state.names text).map fun name =>
        Opening.body true
          { state with names := name.1 :: state.names, rest := name.2 }) =
          some opening → opening.left <:+ text := by
    intro text opens
    obtain ⟨⟨name, rest⟩, readsName, ⟨⟩⟩ := Option.map_eq_some_iff.mp opens
    exact groupName?_suffix readsName
  split at reads
  · rename_i more
    exact (named reads).trans (List.suffix_append ['?', 'P', '<'] more)
  · rename_i more
    split at reads
    · cases reads
    · cases reads
    · exact (named reads).trans (List.suffix_append ['?', '<'] more)
  · rename_i more _ _
    refine List.IsSuffix.trans ?_ (List.suffix_cons '?' more)
    split at reads
    · rename_i letters
      split at reads
      · cases reads
        exact (List.suffix_cons ')' _).trans (flagLetters?_suffix letters)
      · cases reads
    · rename_i letters
      cases reads
      exact (List.suffix_cons _ _).trans (flagLetters?_suffix letters)
    · cases reads
  · cases reads
    exact List.suffix_rfl

/-- A sequence ends at a bar, at a closing parenthesis and at the end of the
text. -/
def endsSequence (text : List Char) : Bool :=
  text.head?.all fun c => c = '|' || c = ')'

section Properties

variable [Properties]

/-- Read one part of a sequence, or an operator on the last part, where groups
and bracketed sets are read by other readers. -/
def part? (group : State → Option (Nested × State))
    (set : List Char → Option (NestedSet × List Char)) (parts : Parts)
    (state : State) :
    List Char → Option (Parts × State)
  | '(' :: rest =>
      (opening? { state with rest := rest }).bind fun opening =>
        match opening with
        | .switch flags rest =>
            some (none :: parts, { state with flags := flags, rest := rest })
        | .body recorded inner =>
            (group inner).bind fun (body, inner) =>
              match inner.rest with
              | ')' :: rest =>
                  some (some (groupOf recorded body) :: parts,
                    { flags := state.flags, names := inner.names,
                      rest := rest })
              | _ => none
  | '[' :: rest =>
      (set rest).map fun (inner, rest) =>
        (some ⟨ofSet inner.characters, inner.depth⟩ :: parts,
          { state with rest := rest })
  | '?' :: rest => repeatLast? 0 (some 1) parts state rest
  | '*' :: rest => repeatLast? 0 none parts state rest
  | '+' :: rest => repeatLast? 1 none parts state rest
  | '\x7b' :: rest =>
      (counts? state.flags rest).bind fun (least, most, rest) =>
        repeatLast? least most parts state rest
  | text =>
      (symbol? state.flags text).map fun (symbol, rest) =>
        (some ⟨symbol.expression state.flags, 0⟩ :: parts,
          { state with rest := rest })

/-- A sequence goes on with a part where it does not end. -/
theorem parts?_succ (fuel : Nat) (parts : Parts) (state : State) :
    parts? (fuel + 1) parts state =
      let text := skipIgnored state.flags.extended state.rest
      if endsSequence text then
        some (sequenceOf parts, { state with rest := text })
      else
        (part? (alternatives? fuel []) (bracketed? state.flags fuel) parts state
          text).bind
          fun (parts, state) => parts? fuel parts state := by
  rw [parts?]
  dsimp only
  generalize skipIgnored state.flags.extended state.rest = text
  simp only [Option.bind_eq_bind]
  split
  case h_1 | h_2 | h_3 => rfl
  case h_4 rest =>
    change Option.bind (opening? { state with rest := rest }) _ =
      Option.bind (Option.bind (opening? { state with rest := rest }) _) _
    rw [Option.bind_assoc]
    refine congrArg _ (funext fun opening => ?_)
    cases opening with
    | switch flags rest => rfl
    | body recorded inner =>
        dsimp only
        rw [Option.bind_assoc]
        refine congrArg _ (funext fun read => ?_)
        obtain ⟨body, inner⟩ := read
        dsimp only
        split <;> simp [*]
  case h_5 rest =>
    change _ = Option.bind (Option.map _ (bracketed? state.flags fuel rest)) _
    rw [Option.bind_map]
    rfl
  case h_6 | h_7 | h_8 => rfl
  case h_9 rest =>
    change Option.bind (counts? state.flags rest) _ =
      Option.bind (Option.bind (counts? state.flags rest) _) _
    rw [Option.bind_assoc]
  case h_10 =>
    cases text with
    | nil => simp_all
    | cons c text =>
        rw [if_neg (by simp_all [endsSequence])]
        unfold part?
        split
        any_goals simp_all
        rw [Option.bind_map]
        rfl

/-- A part is at least one character. -/
theorem part?_suffix
    {group : State → Option (Nested × State)}
    {set : List Char → Option (NestedSet × List Char)}
    {parts longer : Parts}
    {state next : State}
    {c : Char}
    (groupLeft : ∀ {state body next}, group state = some (body, next) →
      next.rest <:+ state.rest)
    (setLeft : ∀ {text inner rest}, set text = some (inner, rest) →
      rest <:+ text)
    (reads : part? group set parts state (c :: text) = some (longer, next)) :
    next.rest <:+ text := by
  unfold part? at reads
  split at reads
  case h_1 heading =>
    cases heading
    obtain ⟨opening, opens, reads⟩ := Option.bind_eq_some_iff.mp reads
    refine List.IsSuffix.trans ?_ (opening?_suffix opens)
    cases opening with
    | switch switched behind =>
        cases reads
        exact List.suffix_rfl
    | body recorded inner =>
        obtain ⟨⟨body, inner⟩, readsBody, reads⟩ :=
          Option.bind_eq_some_iff.mp reads
        refine List.IsSuffix.trans ?_ (groupLeft readsBody)
        dsimp only at reads
        split at reads
        · rename_i behind closes
          cases reads
          rw [closes]
          exact List.suffix_cons ')' behind
        · cases reads
  case h_2 heading =>
    cases heading
    obtain ⟨⟨inner, behind⟩, readsSet, ⟨⟩⟩ := Option.map_eq_some_iff.mp reads
    exact setLeft readsSet
  case h_3 heading | h_4 heading | h_5 heading =>
    cases heading
    exact repeatLast?_suffix reads
  case h_6 heading =>
    cases heading
    obtain ⟨⟨least, most, behind⟩, readsCounts, reads⟩ :=
      Option.bind_eq_some_iff.mp reads
    exact (repeatLast?_suffix reads).trans (counts?_suffix readsCounts)
  case h_7 =>
    obtain ⟨⟨symbol, behind⟩, readsSymbol, ⟨⟩⟩ :=
      Option.map_eq_some_iff.mp reads
    exact symbol?_suffix readsSymbol

theorem parts?_zero (parts : Parts) (state : State) :
    parts? 0 parts state = none := by
  rw [parts?]

theorem alternatives?_zero (before : List Nested) (state : State) :
    alternatives? 0 before state = none := by
  rw [alternatives?]

/-- A sequence is an alternative, and others follow behind a bar. -/
theorem alternatives?_succ (fuel : Nat) (before : List Nested) (state : State) :
    alternatives? (fuel + 1) before state =
      (parts? fuel [] state).bind fun (last, state) =>
        match state.rest with
        | '|' :: rest =>
            alternatives? fuel (last :: before) { state with rest := rest }
        | _ =>
            some (if before = [] then last
              else choiceOf (last :: before).reverse, state) := by
  rw [alternatives?]
  simp only [Option.bind_eq_bind]
  refine congrArg _ (funext fun read => ?_)
  obtain ⟨last, state⟩ := read
  dsimp only
  split
  · simp [*]
  · split <;> simp_all

/-- Alternatives and the parts of a sequence leave the end of the text. -/
theorem alternatives?_and_parts?_suffix (fuel : Nat) :
    (∀ {before state body next}, alternatives? fuel before state =
      some (body, next) →
        next.rest <:+ state.rest) ∧
      ∀ {parts state body next}, parts? fuel parts state = some (body, next) →
        next.rest <:+ state.rest := by
  induction fuel with
  | zero =>
      constructor
      · intro before state body next reads
        rw [alternatives?_zero] at reads
        cases reads
      · intro parts state body next reads
        rw [parts?_zero] at reads
        cases reads
  | succ fuel hypothesis =>
      obtain ⟨alternatives, parts⟩ := hypothesis
      constructor
      · intro before state body next reads
        rw [alternatives?_succ] at reads
        obtain ⟨⟨last, behind⟩, readsParts, reads⟩ :=
          Option.bind_eq_some_iff.mp reads
        refine List.IsSuffix.trans ?_ (parts readsParts)
        dsimp only at reads
        split at reads
        · rename_i more isBar
          rw [isBar]
          exact (alternatives reads).trans (List.suffix_cons '|' more)
        · cases reads
          exact List.suffix_rfl
      · intro read state body next reads
        refine List.IsSuffix.trans ?_
          (skipIgnored_suffix state.flags.extended state.rest)
        rw [parts?_succ] at reads
        dsimp only at reads
        generalize skipIgnored state.flags.extended state.rest = text at *
        split at reads
        · cases reads
          exact List.suffix_rfl
        · rename_i goesOn
          cases text with
          | nil => exact absurd rfl goesOn
          | cons c text =>
              obtain ⟨⟨longer, behind⟩, readsPart, reads⟩ :=
                Option.bind_eq_some_iff.mp reads
              exact ((parts reads).trans
                (part?_suffix alternatives bracketed?_suffix readsPart)).trans
                (List.suffix_cons c text)

end Properties

end Regex
end SearchQuery
