import SearchQuery.Proofs.ReaderProgress
import Mathlib.Data.List.TakeWhile

/-!
# Symbols and sets without what is left

A reader of a symbol or a set that stops in front of a closing parenthesis, with
all that follows it left, has not made use of what is left: it reads the same
where the text ends there. This holds although comments and sets do not stop at
a parenthesis, because then the parenthesis would not be left.

The only reader that looks further is the one of word boundaries. After `\b{` it
has to find a character, and the end of the text is an error. With a parenthesis
there it leaves the brace, which is an error then as well, one step later.
-/

namespace SearchQuery
namespace Regex

variable {flags : Flags} {extended : Bool} {text rest left behind : List Char}

/-! ### Ends of texts -/

/-- A text between two others with one end has that end. -/
theorem exists_eq_append_of_suffix
    {tail : List Char}
    (inner : rest ++ tail <:+ left)
    (outer : left <:+ text ++ tail) :
    ∃ own, left = own ++ tail ∧ rest <:+ own ∧ own <:+ text := by
  obtain ⟨front, rfl⟩ := inner
  obtain ⟨start, whole⟩ := outer
  rw [← List.append_assoc, ← List.append_assoc, List.append_cancel_right_eq]
    at whole
  exact ⟨front ++ rest, (List.append_assoc front rest tail).symm,
    List.suffix_append front rest, start, by rw [← whole, List.append_assoc]⟩

theorem exists_eq_append_of_suffix_cons
    {c : Char}
    {tail : List Char}
    (inner : rest ++ tail <:+ left)
    (outer : c :: left <:+ text ++ tail) :
    ∃ own, left = own ++ tail ∧ rest <:+ own ∧ c :: own <:+ text := by
  obtain ⟨own, rfl, inside, -⟩ :=
    exists_eq_append_of_suffix inner ((List.suffix_cons c left).trans outer)
  have whole : c :: own ++ tail <:+ c :: (own ++ tail) := List.suffix_rfl
  obtain ⟨whole, isWhole, -, isSuffix⟩ := exists_eq_append_of_suffix whole outer
  rw [← List.cons_append] at isWhole
  exact ⟨own, rfl, inside, List.append_cancel_right isWhole ▸ isSuffix⟩

theorem not_suffix_behind {c : Char} : ¬ rest ++ c :: behind <:+ behind := by
  intro isSuffix
  have := isSuffix.length_le
  simp only [List.length_append, List.length_cons] at this
  omega

/-! ### Symbols -/

theorem skipIgnored_nil : skipIgnored extended [] = [] := by
  rw [skipIgnored]

theorem skipIgnored_closing :
    skipIgnored extended (')' :: behind) = ')' :: behind := by
  have notBlank : Text.isBlank ')' = false := by decide
  simp [skipIgnored, notBlank]

theorem skipComment_append (text behind : List Char) :
    skipComment (text ++ ')' :: behind) = skipComment text ++ ')' :: behind ∨
      skipComment text = [] ∧
        skipComment (text ++ ')' :: behind) <:+ behind := by
  induction text with
  | nil => exact .inr ⟨rfl, skipComment_suffix behind⟩
  | cons c text hypothesis =>
      simp only [List.cons_append, skipComment]
      split
      · exact .inl rfl
      · exact hypothesis

theorem skipIgnored_unread
    (skips : skipIgnored extended (text ++ ')' :: behind) =
      rest ++ ')' :: behind) :
    skipIgnored extended text = rest := by
  fun_induction skipIgnored extended text with
  | case1 =>
      rw [List.nil_append, skipIgnored_closing] at skips
      exact (List.self_eq_append_left.mp skips).symm
  | case2 c text blank hypothesis =>
      rw [List.cons_append, skipIgnored, if_pos blank] at skips
      exact hypothesis skips
  | case3 c text notBlank comment hypothesis =>
      rw [List.cons_append, skipIgnored, if_neg notBlank, if_pos comment]
        at skips
      rcases skipComment_append text behind with ends | ⟨-, swallows⟩
      · exact hypothesis (ends ▸ skips)
      · exact absurd ((skips ▸ skipIgnored_suffix extended _).trans swallows)
          not_suffix_behind
  | case4 c text notBlank notComment =>
      rw [List.cons_append, skipIgnored, if_neg notBlank, if_neg notComment,
        ← List.cons_append] at skips
      exact List.append_cancel_right skips

/-- If not all is ignored, what is left begins alike if more follows. -/
theorem skipIgnored_append (remains : skipIgnored extended text ≠ []) :
    skipIgnored extended (text ++ ')' :: behind) =
      skipIgnored extended text ++ ')' :: behind := by
  fun_induction skipIgnored extended text with
  | case1 => exact absurd rfl remains
  | case2 c text blank hypothesis =>
      rw [List.cons_append, skipIgnored, if_pos blank]
      exact hypothesis remains
  | case3 c text notBlank comment hypothesis =>
      rw [List.cons_append, skipIgnored, if_neg notBlank, if_pos comment]
      rcases skipComment_append text behind with ends | ⟨swallowed, -⟩
      · rw [ends]
        exact hypothesis remains
      · rw [swallowed, skipIgnored] at remains
        exact absurd rfl remains
  | case4 c text notBlank notComment =>
      rw [List.cons_append, skipIgnored, if_neg notBlank, if_neg notComment]

/-- What is skipped in front of the first characters is skipped also if the text
ends where more is left. -/
theorem exists_skipIgnored_eq
    (front : List Char)
    (skips : skipIgnored extended (text ++ ')' :: behind) = front ++ left)
    (inner : rest ++ ')' :: behind <:+ left) :
    ∃ own, left = own ++ ')' :: behind ∧ rest <:+ own ∧
      skipIgnored extended text = front ++ own := by
  have outer : left <:+ text ++ ')' :: behind :=
    (List.suffix_append front left).trans
      (skips ▸ skipIgnored_suffix extended _)
  obtain ⟨own, rfl, inside, -⟩ := exists_eq_append_of_suffix inner outer
  exact ⟨own, rfl, inside,
    skipIgnored_unread (skips.trans (List.append_assoc ..).symm)⟩

theorem exists_skipIgnored_eq_cons
    {c : Char}
    (skips : skipIgnored extended (text ++ ')' :: behind) = c :: left)
    (inner : rest ++ ')' :: behind <:+ left) :
    ∃ own, left = own ++ ')' :: behind ∧ rest <:+ own ∧
      skipIgnored extended text = c :: own :=
  exists_skipIgnored_eq [c] skips inner

theorem takeExactly?_unread
    {count : Nat}
    {taken : List Char}
    (reads : takeExactly? extended count (text ++ ')' :: behind) =
      some (taken, rest ++ ')' :: behind)) :
    takeExactly? extended count text = some (taken, rest) := by
  induction count generalizing text taken with
  | zero =>
      simp only [takeExactly?, Option.some.injEq, Prod.mk.injEq] at reads ⊢
      exact ⟨reads.1, List.append_cancel_right reads.2⟩
  | succ count hypothesis =>
      cases text with
      | nil =>
          obtain ⟨⟨more, left⟩, reads, ⟨⟩⟩ := Option.map_eq_some_iff.mp reads
          exact absurd
            ((takeExactly?_suffix reads).trans
              (skipIgnored_suffix extended behind))
            not_suffix_behind
      | cons c text =>
          obtain ⟨⟨more, left⟩, reads, ⟨⟩⟩ := Option.map_eq_some_iff.mp reads
          obtain ⟨own, skips, -, -⟩ := exists_eq_append_of_suffix
            (takeExactly?_suffix reads)
            (skipIgnored_suffix extended (text ++ ')' :: behind))
          rw [skips] at reads
          rw [takeExactly?, skipIgnored_unread skips, hypothesis reads]
          rfl

theorem takeToBrace?_eq (extended : Bool) (text : List Char) :
    takeToBrace? extended text =
      match skipIgnored extended text with
      | [] => none
      | c :: rest =>
          if c = '\x7d' then some ([], skipIgnored extended rest)
          else (takeToBrace? extended rest).map fun (taken, rest) =>
            (c :: taken, rest) := by
  rw [takeToBrace?]
  split <;> simp_all

theorem takeToBrace?_unread
    {taken : List Char}
    (reads : takeToBrace? extended (text ++ ')' :: behind) =
      some (taken, rest ++ ')' :: behind)) :
    takeToBrace? extended text = some (taken, rest) := by
  generalize whole : text ++ ')' :: behind = full at reads
  fun_induction takeToBrace? extended full generalizing text taken with
  | case1 => cases reads
  | case2 full more skipped =>
      subst whole
      obtain ⟨rfl, skips⟩ := Prod.mk.inj (Option.some.inj reads)
      obtain ⟨own, rfl, -, skipped⟩ := exists_skipIgnored_eq_cons skipped
        (skips ▸ skipIgnored_suffix extended more)
      rw [takeToBrace?_eq, skipped, ← skipIgnored_unread skips]
      rfl
  | case3 full c more notBrace skipped hypothesis =>
      subst whole
      obtain ⟨⟨others, left⟩, reads, ⟨⟩⟩ := Option.map_eq_some_iff.mp reads
      obtain ⟨own, rfl, -, skipped⟩ := exists_skipIgnored_eq_cons skipped
        (takeToBrace?_suffix reads)
      rw [takeToBrace?_eq, skipped]
      dsimp only
      rw [if_neg notBrace, hypothesis rfl reads]
      rfl

/-- The brace behind a word boundary is an error if nothing but ignored
characters follows it. -/
def BreaksOff (extended : Bool) (text : List Char) : Prop :=
  ∃ more, text = '\x7b' :: more ∧ skipIgnored extended more = []

/-- A brace behind a word boundary belongs to it if a letter follows. -/
theorem boundary?_brace (flags : Flags) (text : List Char) :
    boundary? flags ('\x7b' :: text) =
      match skipIgnored flags.extended text with
      | [] => none
      | c :: _ =>
          if isBoundaryLetter c then
            (takeToBrace? flags.extended text).bind fun (name, rest) =>
              if name.all isBoundaryLetter then
                (namedBoundary? (!flags.unicode) (String.ofList name)).map
                  fun condition =>
                  (.assertion condition, rest)
              else none
          else some (.assertion (.wordBoundary !flags.unicode),
            '\x7b' :: text) := by
  rw [boundary?]
  dsimp only
  split
  · simp [*]
  · simp only [*, Option.bind_eq_bind]
    congr 1
    refine congrArg _ (funext fun read => ?_)
    obtain ⟨name, rest⟩ := read
    dsimp only
    cases letters : name.all isBoundaryLetter with
    | true =>
        simp only [guard, if_true, Option.map_eq_bind]
        rfl
    | false => simp [guard]

theorem boundary?_of_head?_ne (plain : text.head? ≠ some '\x7b') :
    boundary? flags text =
      some (.assertion (.wordBoundary !flags.unicode), text) := by
  unfold boundary?
  split
  · simp at plain
  · rfl

/-- A brace behind a word boundary is read the same if the text ends where more
is left, unless nothing follows it there. -/
theorem boundary?_brace_unread
    {symbol : Symbol}
    (reads : boundary? flags ('\x7b' :: text ++ ')' :: behind) =
      some (symbol, rest ++ ')' :: behind)) :
    boundary? flags ('\x7b' :: text) = some (symbol, rest) ∨
      (∃ condition, symbol = .assertion condition) ∧
        BreaksOff flags.extended rest := by
  rw [List.cons_append, boundary?_brace] at reads
  rw [boundary?_brace]
  cases skipped : skipIgnored flags.extended text with
  | nil =>
      right
      split at reads
      · cases reads
      · split at reads
        · obtain ⟨⟨name, left⟩, takes,
              reads⟩ := Option.bind_eq_some_iff.mp reads
          dsimp only at reads
          split at reads
          · obtain ⟨condition, -, ⟨⟩⟩ := Option.map_eq_some_iff.mp reads
            have takes := takeToBrace?_unread takes
            rw [takeToBrace?_eq, skipped] at takes
            cases takes
          · cases reads
        · obtain ⟨rfl, leaves⟩ := Prod.mk.inj (Option.some.inj reads)
          rw [← List.cons_append] at leaves
          exact ⟨⟨_, rfl⟩, text,
            (List.append_cancel_right leaves).symm, skipped⟩
  | cons c own =>
      left
      rw [skipIgnored_append (by simp [skipped]), skipped] at reads
      dsimp only [List.cons_append] at reads ⊢
      split at reads
      · rename_i letter
        rw [if_pos letter]
        obtain ⟨⟨name, left⟩, takes, reads⟩ := Option.bind_eq_some_iff.mp reads
        split at reads
        · rename_i letters
          obtain ⟨condition, isNamed, ⟨⟩⟩ := Option.map_eq_some_iff.mp reads
          rw [takeToBrace?_unread takes, Option.bind_some,
            if_pos letters, isNamed]
          rfl
        · cases reads
      · rename_i noLetter
        obtain ⟨rfl, leaves⟩ := Prod.mk.inj (Option.some.inj reads)
        rw [← List.cons_append] at leaves
        rw [if_neg noLetter, List.append_cancel_right leaves]

/-- A word boundary is read the same if the text ends where more is left, but
for a brace at the end of the text. -/
theorem boundary?_unread
    {symbol : Symbol}
    (reads : boundary? flags (text ++ ')' :: behind) =
      some (symbol, rest ++ ')' :: behind)) :
    boundary? flags text = some (symbol, rest) ∨
      (∃ condition, symbol = .assertion condition) ∧
        BreaksOff flags.extended rest := by
  by_cases brace : text.head? = some '\x7b'
  · obtain ⟨more, rfl⟩ := List.head?_eq_some_iff.mp brace
    exact boundary?_brace_unread reads
  · have plain : (text ++ ')' :: behind).head? ≠ some '\x7b' := by
      cases text with
      | nil => simp
      | cons c text => exact brace
    rw [boundary?_of_head?_ne plain] at reads
    obtain ⟨rfl, leaves⟩ := Prod.mk.inj (Option.some.inj reads)
    rw [boundary?_of_head?_ne brace, List.append_cancel_right leaves]
    exact .inl rfl

theorem hexEscape?_unread
    {count : Nat}
    {symbol : Symbol}
    (reads : hexEscape? flags count (text ++ ')' :: behind) =
      some (symbol, rest ++ ')' :: behind)) :
    hexEscape? flags count text = some (symbol, rest) := by
  unfold hexEscape? at reads
  simp only [Option.bind_eq_bind] at reads
  split at reads
  · rename_i more skipped
    obtain ⟨⟨digits, left⟩, takes, reads⟩ := Option.bind_eq_some_iff.mp reads
    obtain ⟨c, isCharacter, ⟨⟩⟩ := Option.bind_eq_some_iff.mp reads
    obtain ⟨own, rfl, -, skipped⟩ :=
      exists_skipIgnored_eq_cons skipped (takeToBrace?_suffix takes)
    simp [hexEscape?, skipped, takeToBrace?_unread takes, isCharacter]
  · rename_i noBrace
    obtain ⟨⟨digits, left⟩, takes, reads⟩ := Option.bind_eq_some_iff.mp reads
    simp only [Option.bind_eq_some_iff] at reads
    obtain ⟨c, isCharacter, _, guarded, ⟨⟩⟩ := reads
    obtain ⟨own, skips, -, -⟩ := exists_eq_append_of_suffix
      (takeExactly?_suffix takes)
      (skipIgnored_suffix flags.extended (text ++ ')' :: behind))
    have skipped := skipIgnored_unread skips
    rw [skips] at takes noBrace
    unfold hexEscape?
    rw [skipped]
    split
    · exact absurd rfl (noBrace _)
    · simp [takeExactly?_unread takes, isCharacter, guarded]

section Properties

variable [Properties]

theorem propertyEscape?_unread
    {negated : Bool}
    {symbol : Symbol}
    (reads : propertyEscape? flags negated (text ++ ')' :: behind) =
      some (symbol, rest ++ ')' :: behind)) :
    propertyEscape? flags negated text = some (symbol, rest) := by
  unfold propertyEscape? at reads
  simp only [Option.bind_eq_bind] at reads
  split at reads
  · cases reads
  · cases reads
  · rename_i more skipped
    obtain ⟨⟨name, left⟩, takes, reads⟩ := Option.bind_eq_some_iff.mp reads
    obtain ⟨characters, isSet, ⟨⟩⟩ := Option.bind_eq_some_iff.mp reads
    obtain ⟨own, rfl, -, skipped⟩ :=
      exists_skipIgnored_eq_cons skipped (takeToBrace?_suffix takes)
    simp [propertyEscape?, skipped, takeToBrace?_unread takes, isSet]
  · rename_i letter more noBackslash noBrace skipped
    obtain ⟨characters, isSet, read⟩ := Option.bind_eq_some_iff.mp reads
    obtain ⟨rfl, skips⟩ := Prod.mk.inj (Option.some.inj read)
    obtain ⟨own, rfl, -, skipped⟩ := exists_skipIgnored_eq_cons skipped
      (skips ▸ skipIgnored_suffix flags.extended more)
    have skips := skipIgnored_unread skips
    unfold propertyEscape?
    rw [skipped]
    split <;> simp_all

theorem escape?_unread
    {symbol : Symbol}
    (reads : escape? flags (text ++ ')' :: behind) =
      some (symbol, rest ++ ')' :: behind)) :
    escape? flags text = some (symbol, rest) ∨
      (∃ condition, symbol = .assertion condition) ∧
        BreaksOff flags.extended rest := by
  cases text with
  | nil => exact absurd (escape?_cons_suffix reads) not_suffix_behind
  | cons c text =>
      rcases escape?_cons flags c with
        ⟨count, digits⟩ | boundary | ⟨negated, property⟩ |
        ⟨known, isKnown⟩
      · rw [List.cons_append, digits] at reads
        exact .inl ((digits text).trans (hexEscape?_unread reads))
      · rw [List.cons_append, boundary] at reads
        rw [boundary text]
        exact boundary?_unread reads
      · rw [List.cons_append, property] at reads
        exact .inl ((property text).trans (propertyEscape?_unread reads))
      · rw [List.cons_append, isKnown] at reads
        obtain ⟨symbol, rfl, read⟩ := Option.map_eq_some_iff.mp reads
        obtain ⟨rfl, leaves⟩ := Prod.mk.inj read
        rw [isKnown, ← List.append_cancel_right leaves]
        exact .inl rfl

theorem symbol?_unread
    {c : Char}
    {symbol : Symbol}
    (reads : symbol? flags (c :: text ++ ')' :: behind) =
      some (symbol, rest ++ ')' :: behind)) :
    symbol? flags (c :: text) = some (symbol, rest) ∨
      BreaksOff flags.extended rest := by
  rcases symbol?_cons flags c with escaped | ⟨known, isKnown⟩
  · rw [List.cons_append, escaped] at reads
    rw [escaped]
    exact (escape?_unread reads).imp_right And.right
  · rw [List.cons_append, isKnown] at reads
    obtain ⟨symbol, rfl, read⟩ := Option.map_eq_some_iff.mp reads
    obtain ⟨rfl, leaves⟩ := Prod.mk.inj read
    rw [isKnown, ← List.append_cancel_right leaves]
    exact .inl rfl

/-! ### Sets in brackets -/

theorem setItem?_unread
    {symbol : Symbol}
    (reads : setItem? flags (text ++ ')' :: behind) =
      some (symbol, rest ++ ')' :: behind)) :
    setItem? flags text = some (symbol, rest) ∨ ∃ condition, symbol =
      .assertion condition := by
  cases text with
  | nil =>
      obtain ⟨-, leaves⟩ := Prod.mk.inj (Option.some.inj reads)
      exact absurd ⟨[], leaves.symm⟩ not_suffix_behind
  | cons c text =>
      by_cases escaped : c = '\\'
      · subst escaped
        exact (escape?_unread reads).imp_right And.left
      · left
        simp only [List.cons_append, setItem?, Option.some.injEq, Prod.mk.injEq]
          at reads ⊢
        exact ⟨reads.1, List.append_cancel_right reads.2⟩

end Properties

theorem trimLeft_append (text : List Char) :
    Text.trimLeft (text ++ ')' :: behind) =
      Text.trimLeft text ++ ')' :: behind := by
  have notBlank : Text.isBlank ')' = false := by decide
  rw [Text.trimLeft, List.dropWhile_append]
  split
  · rename_i blank
    rw [Text.trimLeft, List.isEmpty_iff.mp blank]
    simp [notBlank]
  · rfl

theorem skipIgnored_trimLeft (text : List Char) :
    skipIgnored true (Text.trimLeft text) = skipIgnored true text := by
  induction text with
  | nil => rfl
  | cons c text hypothesis =>
      cases blank : Text.isBlank c with
      | true =>
          rw [Text.trimLeft, List.dropWhile_cons_of_pos blank, skipIgnored,
            if_pos (by simp [blank])]
          exact hypothesis
      | false =>
          rw [Text.trimLeft, List.dropWhile_cons_of_neg (by simp [blank])]

theorem skipIgnored_comment (text : List Char) :
    skipIgnored true ('#' :: text) = skipIgnored true (skipComment text) := by
  have notBlank : Text.isBlank '#' = false := by decide
  simp [skipIgnored, notBlank]

theorem trimLeft_eq_nil_of_suffix (blank : Text.trimLeft text = [])
    (isSuffix : rest <:+ text) :
    Text.trimLeft rest = [] := by
  rw [Text.trimLeft, List.dropWhile_eq_nil_iff] at blank ⊢
  exact fun c isIn => blank c (isSuffix.subset isIn)

/-- The character that decides on a range is the same if more follows, unless
nothing follows the hyphen but what is ignored. -/
theorem decidingCharacter?_append (extended : Bool) (text behind : List Char) :
    decidingCharacter? extended (text ++ ')' :: behind) =
      decidingCharacter? extended text ∨
      decidingCharacter? extended (text ++ ')' :: behind) = some ')' ∧
        skipIgnored extended text = [] := by
  unfold decidingCharacter?
  cases extended with
  | false =>
      cases text with
      | nil => exact .inr ⟨rfl, skipIgnored_nil⟩
      | cons c text => exact .inl rfl
  | true =>
      rw [trimLeft_append, ← skipIgnored_trimLeft]
      cases Text.trimLeft text with
      | nil => exact .inr ⟨rfl, skipIgnored_nil⟩
      | cons c rest =>
          by_cases comment : c = '#'
          · subst comment
            simp only [List.cons_append, trimLeft_append]
            cases blank : Text.trimLeft rest with
            | nil =>
                right
                rw [skipIgnored_comment, ← skipIgnored_trimLeft,
                  trimLeft_eq_nil_of_suffix blank (skipComment_suffix rest)]
                exact ⟨rfl, skipIgnored_nil⟩
            | cons c rest => exact .inl rfl
          · left
            simp

theorem itemRange?_assertion (first : Symbol) (condition : Assertion) :
    itemRange? flags first (.assertion condition) = none := by
  cases first <;> rfl

section Properties

variable [Properties]

theorem rangeEnd?_of_ne {c : Char} (first : Symbol) (plain : c ≠ '-') :
    rangeEnd? flags first (c :: text) =
      (first.itemSet? flags).map fun characters => (characters, c :: text) := by
  unfold rangeEnd?
  split <;> simp_all

theorem rangeEnd?_assertion (condition : Assertion) (text : List Char) :
    rangeEnd? flags (.assertion condition) text = none := by
  unfold rangeEnd?
  split <;> simp [Symbol.itemSet?, itemRange?]

/-- A hyphen is read the same if the text ends where more is left, whether it is
an item or stands in a range. -/
theorem rangeEnd?_hyphen_unread
    {first : Symbol}
    {characters : CharSet}
    (reads : rangeEnd? flags first ('-' :: text ++ ')' :: behind) =
      some (characters, rest ++ ')' :: behind)) :
    rangeEnd? flags first ('-' :: text) = some (characters, rest) := by
  simp only [List.cons_append, rangeEnd?] at reads ⊢
  obtain ⟨next, decides, reads⟩ := Option.bind_eq_some_iff.mp reads
  have deciding := decidingCharacter?_append flags.extended text behind
  rw [decides] at deciding
  split at reads
  · rename_i alone
    obtain ⟨_, isItem, read⟩ := Option.map_eq_some_iff.mp reads
    obtain ⟨rfl, leaves⟩ := Prod.mk.inj read
    rw [← List.cons_append] at leaves
    rcases deciding with same | ⟨closing, -⟩
    · rw [← same, Option.bind_some, if_pos alone, isItem,
        ← List.append_cancel_right leaves]
      rfl
    · rw [Option.some.inj closing] at alone
      exact absurd alone (by decide)
  · rename_i ranges
    obtain ⟨⟨last, left⟩, readsLast, reads⟩ := Option.bind_eq_some_iff.mp reads
    obtain ⟨_, isRange, ⟨⟩⟩ := Option.map_eq_some_iff.mp reads
    obtain ⟨own, skips, -, -⟩ := exists_eq_append_of_suffix
      (setItem?_suffix readsLast)
      (skipIgnored_suffix flags.extended (text ++ ')' :: behind))
    rw [skips] at readsLast
    rcases setItem?_unread readsLast with reads | ⟨condition, rfl⟩
    · rw [← skipIgnored_unread skips] at reads
      rcases deciding with same | ⟨-, ignored⟩
      · rw [← same, Option.bind_some, if_neg ranges, reads,
          Option.bind_some, isRange]
        rfl
      · rw [ignored] at reads
        cases reads
    · rw [itemRange?_assertion] at isRange
      cases isRange

/-- A range is read the same if the text ends where more is left, unless that is
behind an item. -/
theorem rangeEnd?_unread
    {first : Symbol}
    {characters : CharSet}
    (remains : rest ≠ [])
    (reads : rangeEnd? flags first (text ++ ')' :: behind) =
      some (characters, rest ++ ')' :: behind)) :
    rangeEnd? flags first text = some (characters, rest) := by
  cases text with
  | nil =>
      rw [List.nil_append, rangeEnd?_of_ne first (by decide)] at reads
      obtain ⟨_, -, read⟩ := Option.map_eq_some_iff.mp reads
      have leaves := (Prod.mk.inj read).2
      exact absurd (List.self_eq_append_left.mp leaves) remains
  | cons c text =>
      by_cases hyphen : c = '-'
      · subst hyphen
        exact rangeEnd?_hyphen_unread reads
      · rw [List.cons_append, rangeEnd?_of_ne first hyphen] at reads
        obtain ⟨_, isItem, read⟩ := Option.map_eq_some_iff.mp reads
        obtain ⟨rfl, leaves⟩ := Prod.mk.inj read
        rw [← List.cons_append] at leaves
        rw [rangeEnd?_of_ne first hyphen, isItem,
          ← List.append_cancel_right leaves]
        rfl

theorem setRange?_unread
    {characters : CharSet}
    (remains : rest ≠ [])
    (reads : setRange? flags (text ++ ')' :: behind) =
      some (characters, rest ++ ')' :: behind)) :
    setRange? flags text = some (characters, rest) := by
  rw [setRange?_eq] at reads ⊢
  obtain ⟨⟨first, left⟩, readsFirst, reads⟩ := Option.bind_eq_some_iff.mp reads
  obtain ⟨own, skips, -, -⟩ := exists_eq_append_of_suffix
    (rangeEnd?_suffix reads)
    ((skipIgnored_suffix flags.extended left).trans
      (setItem?_suffix readsFirst))
  dsimp only at reads
  rw [skips] at reads
  obtain ⟨left, rfl, -, -⟩ := exists_eq_append_of_suffix
    (skips ▸ skipIgnored_suffix flags.extended left)
      (setItem?_suffix readsFirst)
  rcases setItem?_unread readsFirst with readsFirst | ⟨condition, rfl⟩
  · rw [readsFirst, Option.bind_some]
    dsimp only
    rw [skipIgnored_unread skips]
    exact rangeEnd?_unread remains reads
  · rw [rangeEnd?_assertion] at reads
    cases reads

end Properties

theorem negationMark_append (text : List Char) :
    negationMark (text ++ ')' :: behind) =
      ((negationMark text).1, (negationMark text).2 ++ ')' :: behind) := by
  cases text with
  | nil => rfl
  | cons c text =>
      by_cases marked : c = '^'
      · subst marked
        rfl
      · have plain : ∀ rest, c :: text ≠ '^' :: rest := by simp [marked]
        rw [negationMark_of_forall_ne plain,
          negationMark_of_forall_ne (by simp [marked])]

theorem takeWhile_append_of_dropWhile_eq
    {keeps : Char → Bool}
    {c : Char}
    (drops : text.dropWhile keeps = c :: rest)
    (tail : List Char) :
    (text ++ tail).takeWhile keeps = text.takeWhile keeps := by
  rw [List.takeWhile_append, if_neg]
  have :=
    congrArg List.length
      (List.takeWhile_append_dropWhile (p := keeps) (l := text))
  rw [drops, List.length_append, List.length_cons] at this
  omega

theorem dropWhile_unread
    {keeps : Char → Bool}
    {c : Char}
    (drops : (text ++ ')' :: behind).dropWhile keeps =
      c :: rest ++ ')' :: behind) :
    text.dropWhile keeps = c :: rest := by
  rw [List.dropWhile_append] at drops
  split at drops
  · have isSuffix : c :: rest ++ ')' :: behind <:+ ')' :: behind := drops ▸
      List.dropWhile_suffix _
    have := isSuffix.length_le
    simp only [List.length_append, List.length_cons] at this
    omega
  · exact List.append_cancel_right drops

theorem namedSet?_of_ne {c : Char} (noColon : c ≠ ':') :
    namedSet? (c :: text) = none := by
  unfold namedSet?
  split
  · simp_all
  · rfl

/-- The name of a set is read the same if the text ends where more is left. -/
theorem namedSet?_unread
    {named : NamedSet}
    (reads : namedSet? (text ++ ')' :: behind) =
      some (named, rest ++ ')' :: behind)) :
    namedSet? text = some (named, rest) := by
  cases text with
  | nil =>
      rw [List.nil_append, namedSet?_of_ne (by decide)] at reads
      cases reads
  | cons c text =>
      by_cases colon : c = ':'
      · subst colon
        rw [List.cons_append, namedSet?_colon, negationMark_append] at reads
        rw [namedSet?_colon]
        dsimp only at reads
        split at reads
        · rename_i more drops
          obtain ⟨_, isKnown, ⟨⟩⟩ := Option.bind_eq_some_iff.mp reads
          have drops :=
            dropWhile_unread (show _ = ':' :: (']' :: rest) ++ ')' :: behind
              from drops)
          rw [takeWhile_append_of_dropWhile_eq drops] at isKnown
          rw [drops]
          simp only [isKnown, Option.bind_some]
        · cases reads
      · rw [List.cons_append, namedSet?_of_ne colon] at reads
        cases reads

/-- The name of a set is read the same if more follows. -/
theorem namedSet?_append
    {named : NamedSet}
    (reads : namedSet? text = some (named, rest)) :
    namedSet? (text ++ ')' :: behind) =
      some (named, rest ++ ')' :: behind) := by
  cases text with
  | nil => cases reads
  | cons c text =>
      by_cases colon : c = ':'
      · subst colon
        rw [namedSet?_colon] at reads
        rw [List.cons_append, namedSet?_colon, negationMark_append]
        split at reads
        · rename_i more drops
          obtain ⟨_, isKnown, ⟨⟩⟩ := Option.bind_eq_some_iff.mp reads
          rw [← takeWhile_append_of_dropWhile_eq drops (')' :: behind)]
            at isKnown
          rw [List.dropWhile_append, if_neg (by rw [drops]; simp), drops]
          simp only [List.cons_append, isKnown, Option.bind_some]
        · cases reads
      · rw [namedSet?_of_ne colon] at reads
        cases reads

theorem leadingHyphens_unread
    {state hyphens : SetState}
    (leads : leadingHyphens extended state (text ++ ')' :: behind) =
      (hyphens, rest ++ ')' :: behind)) :
    leadingHyphens extended state text = (hyphens, rest) := by
  generalize whole : text ++ ')' :: behind = full at leads
  fun_induction leadingHyphens extended state full generalizing text with
  | case1 state more hypothesis =>
      cases text with
      | nil => simp at whole
      | cons c text =>
          rw [List.cons_append] at whole
          obtain ⟨rfl, rfl⟩ := List.cons.inj whole
          have inner := leadingHyphens_suffix extended
            (state.addCharacters (.single '-'))
              (skipIgnored extended (text ++ ')' :: behind))
          rw [leads] at inner
          obtain ⟨own, skips, -, -⟩ := exists_eq_append_of_suffix inner
            (skipIgnored_suffix extended (text ++ ')' :: behind))
          rw [leadingHyphens, skipIgnored_unread skips]
          exact hypothesis skips.symm leads
  | case2 state full noHyphen =>
      subst whole
      obtain ⟨rfl, leaves⟩ := Prod.mk.inj leads
      obtain rfl := List.append_cancel_right leaves
      unfold leadingHyphens
      split
      · exact absurd rfl (noHyphen _)
      · rfl

theorem setMark_unread
    {negated : Bool}
    (marks : setMark flags (text ++ ')' :: behind) =
      (negated, rest ++ ')' :: behind)) :
    setMark flags text = (negated, rest) := by
  obtain ⟨isNegated, leaves⟩ := Prod.mk.inj marks
  have inner :
      rest ++ ')' :: behind <:+ skipIgnored flags.extended
        (text ++ ')' :: behind) := by
    refine List.IsSuffix.trans ?_ (negationMark_suffix _)
    rw [← leaves]
    split
    · exact skipIgnored_suffix _ _
    · exact List.suffix_rfl
  obtain ⟨own, skips, -, -⟩ :=
    exists_eq_append_of_suffix inner (skipIgnored_suffix _ _)
  rw [skips, negationMark_append] at isNegated leaves
  unfold setMark
  rw [skipIgnored_unread skips]
  refine Prod.ext isNegated ?_
  dsimp only at leaves ⊢
  split at leaves
  · rename_i marked
    rw [if_pos marked]
    exact skipIgnored_unread leaves
  · rename_i unmarked
    rw [if_neg unmarked]
    exact List.append_cancel_right leaves

theorem firstItems_unread
    {state : SetState}
    (reads : firstItems flags (text ++ ')' :: behind) =
      (state, rest ++ ')' :: behind)) :
    firstItems flags text = (state, rest) := by
  unfold firstItems
  split
  · obtain ⟨rfl, skips⟩ := Prod.mk.inj reads
    rw [skipIgnored_unread skips]
  · rename_i noBracket
    unfold firstItems at reads
    split at reads
    · rename_i whole
      cases text with
      | nil => simp at whole
      | cons c text =>
          rw [List.cons_append] at whole
          obtain ⟨rfl, -⟩ := List.cons.inj whole
          exact absurd rfl (noBracket text)
    · exact leadingHyphens_unread reads

theorem setOpening_unread
    {negated : Bool}
    {state : SetState}
    (opens : setOpening flags (text ++ ')' :: behind) =
      (negated, state, rest ++ ')' :: behind)) :
    setOpening flags text = (negated, state, rest) := by
  rw [setOpening_eq] at opens ⊢
  obtain ⟨isNegated, items⟩ := Prod.mk.inj opens
  obtain ⟨own, leaves, -, -⟩ := exists_eq_append_of_suffix
    (items ▸ firstItems_suffix flags (setMark flags (text ++ ')' :: behind)).2)
    (setMark_suffix flags (text ++ ')' :: behind))
  rw [leaves] at items
  rw [setMark_unread (Prod.ext isNegated leaves), firstItems_unread items]

section Properties

variable [Properties]

/-- A member of a set is read the same if the text ends where more is left,
unless that is behind an item. -/
theorem setMember?_unread
    {inner inner' : Bool → SetState → List Char →
      Option (NestedSet × List Char)}
    {state longer : SetState}
    {c : Char}
    (remains : rest ≠ [])
    (innerLeft : ∀ {negated state text nested rest},
      inner negated state text = some (nested, rest) → rest <:+ text)
    (innerUnread : ∀ {negated state more nested rest}, more <:+ text →
      inner negated state (more ++ ')' :: behind) =
        some (nested, rest ++ ')' :: behind) →
      inner' negated state more = some (nested, rest))
    (reads : setMember? flags inner state (c :: text ++ ')' :: behind) =
      some (longer, rest ++ ')' :: behind)) :
    setMember? flags inner' state (c :: text) = some (longer, rest) := by
  rw [List.cons_append] at reads
  unfold setMember? at reads
  split at reads
  · rename_i heading
    obtain ⟨rfl, rfl⟩ := List.cons.inj heading
    rw [setMember?]
    split at reads
    · rename_i named left isNamed
      obtain ⟨characters, isValue, read⟩ := Option.map_eq_some_iff.mp reads
      obtain ⟨rfl, rfl⟩ := Prod.mk.inj read
      rw [namedSet?_unread isNamed]
      dsimp only
      rw [isValue]
      rfl
    · rename_i notNamed
      have outer := setOpening_suffix flags (text ++ ')' :: behind)
      rcases opens : setOpening flags (text ++ ')' :: behind) with
        ⟨negated, innerState, more⟩
      rw [opens] at reads outer
      obtain ⟨⟨nested, left⟩, readsInner, read⟩ :=
        Option.map_eq_some_iff.mp reads
      obtain ⟨rfl, rfl⟩ := Prod.mk.inj read
      have notNamed : namedSet? text = none := by
        cases named : namedSet? text with
        | none => rfl
        | some named =>
            rw [namedSet?_append named] at notNamed
            cases notNamed
      obtain ⟨own, rfl, -, isSuffix⟩ :=
        exists_eq_append_of_suffix (innerLeft readsInner) outer
      rw [notNamed, setOpening_unread opens]
      dsimp only
      rw [innerUnread isSuffix readsInner]
      rfl
  iterate 3
    · rename_i left heading
      cases text with
      | nil => simp at heading
      | cons d text =>
          simp only [List.cons_append, List.cons.injEq] at heading
          obtain ⟨rfl, rfl, rfl⟩ := heading
          obtain ⟨rfl, leaves⟩ := Prod.mk.inj (Option.some.inj reads)
          rw [← List.append_cancel_right leaves]
          rfl
  · obtain ⟨⟨characters, left⟩, readsRange,
        read⟩ := Option.map_eq_some_iff.mp reads
    obtain ⟨rfl, rfl⟩ := Prod.mk.inj read
    unfold setMember?
    split
    any_goals simp_all
    rw [← List.cons_append] at readsRange
    exact ⟨characters, setRange?_unread remains readsRange, rfl⟩

/-- A set is read the same if the text ends where more is left, with fuel of
more than the length of the text. -/
theorem setBody?_unread
    {negated : Bool}
    {fuel : Nat}
    {state : SetState}
    {nested : NestedSet}
    (reads : setBody? flags negated fuel state (text ++ ')' :: behind) =
      some (nested, rest ++ ')' :: behind))
    {enough : Nat}
    (isEnough : text.length < enough) :
    setBody? flags negated enough state text = some (nested, rest) := by
  induction fuel generalizing negated state text nested rest enough with
  | zero => cases reads
  | succ fuel hypothesis =>
      obtain ⟨enough, rfl⟩ :=
        Nat.exists_eq_add_one_of_ne_zero (Nat.ne_zero_of_lt isEnough)
      rw [setBody?_succ] at reads ⊢
      split at reads
      · cases reads
      · rename_i c more skipped
        split at reads
        · rename_i closes
          obtain ⟨_, isValue, ⟨⟩⟩ := Option.map_eq_some_iff.mp reads
          obtain ⟨own, leaves, -, skipped⟩ :=
            exists_skipIgnored_eq_cons skipped List.suffix_rfl
          rw [skipped, ← List.append_cancel_right leaves]
          dsimp only
          rw [if_pos closes, isValue]
          rfl
        · rename_i noBracket
          obtain ⟨⟨longer, left⟩, readsMember, reads⟩ :=
            Option.bind_eq_some_iff.mp reads
          have innerLeft : ∀ {negated state text nested rest},
              setBody? flags negated fuel state text = some (nested, rest) →
                rest <:+ text :=
            fun reads => (List.suffix_cons ']' _).trans (setBody?_suffix reads)
          have member := setMember?_suffix innerLeft readsMember
          have remains : ']' :: rest ++ ')' :: behind <:+ left :=
            setBody?_suffix reads
          obtain ⟨own, rfl, -, skipped⟩ := exists_skipIgnored_eq_cons skipped
            (remains.trans member)
          obtain ⟨left, rfl, remains, isSuffix⟩ :=
            exists_eq_append_of_suffix remains member
          have shorter : own.length < enough := by
            have outer :=
              (skipped ▸ skipIgnored_suffix flags.extended text).length_le
            rw [List.length_cons] at outer
            omega
          rw [skipped]
          dsimp only
          rw [if_neg noBracket,
            setMember?_unread (List.ne_nil_of_mem (remains.subset (.head _)))
            innerLeft (fun isSuffix reads =>
              hypothesis reads (Nat.lt_of_le_of_lt isSuffix.length_le shorter))
                readsMember]
          exact hypothesis reads (Nat.lt_of_le_of_lt isSuffix.length_le shorter)

theorem bracketed?_unread
    {fuel : Nat}
    {nested : NestedSet}
    (reads : bracketed? flags fuel (text ++ ')' :: behind) =
      some (nested, rest ++ ')' :: behind))
    {enough : Nat}
    (isEnough : text.length < enough) :
    bracketed? flags enough text = some (nested, rest) := by
  have outer := setOpening_suffix flags (text ++ ')' :: behind)
  unfold bracketed? at reads ⊢
  rcases opens : setOpening flags (text ++ ')' :: behind) with
    ⟨negated, state, more⟩
  rw [opens] at reads outer
  have inner := (List.suffix_cons ']' _).trans (setBody?_suffix reads)
  obtain ⟨own, rfl, -, isSuffix⟩ := exists_eq_append_of_suffix inner outer
  rw [setOpening_unread opens]
  exact setBody?_unread reads (Nat.lt_of_le_of_lt isSuffix.length_le isEnough)

end Properties

end Regex
end SearchQuery
