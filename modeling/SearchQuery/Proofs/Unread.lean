import SearchQuery.Proofs.UnreadSets

/-!
# Groups without what is left

What is read in front of a closing parenthesis is read the same where the text
ends there. For whole sequences and alternatives this has no exception any more,
because a brace that breaks off is no count. Fuel does not matter if it is
enough for the text that is read.
-/

namespace SearchQuery
namespace Regex

variable {flags : Flags} {extended : Bool} {text rest left behind : List Char}

/-! ### Operators and groups -/

theorem trimLeft_unread
    (trims : Text.trimLeft (text ++ ')' :: behind) = rest ++ ')' :: behind) :
    Text.trimLeft text = rest :=
  List.append_cancel_right ((trimLeft_append text).symm.trans trims)

theorem takeDigits_unread
    {digits : List Char}
    (takes : takeDigits extended (text ++ ')' :: behind) =
      (digits, rest ++ ')' :: behind)) :
    takeDigits extended text = (digits, rest) := by
  fun_induction takeDigits extended text generalizing digits with
  | case1 =>
      rw [List.nil_append, takeDigits, if_neg (by decide)] at takes
      obtain ⟨rfl, leaves⟩ := Prod.mk.inj takes
      rw [List.self_eq_append_left.mp leaves]
  | case2 c text isDigit more left reads hypothesis =>
      rw [List.cons_append, takeDigits, if_pos isDigit] at takes
      dsimp only at takes
      have inner :=
        takeDigits_suffix extended
          (skipIgnored extended (text ++ ')' :: behind))
      rw [(Prod.mk.inj takes).2] at inner
      obtain ⟨own, skips, -, -⟩ :=
        exists_eq_append_of_suffix inner (skipIgnored_suffix _ _)
      rw [skips] at takes
      rw [skipIgnored_unread skips] at reads hypothesis
      have own := hypothesis (Prod.ext rfl (Prod.mk.inj takes).2)
      rw [reads] at own
      obtain ⟨isMore, rfl⟩ := Prod.mk.inj own
      rw [isMore, (Prod.mk.inj takes).1]
  | case3 c text notDigit =>
      rw [List.cons_append, takeDigits, if_neg notDigit, ← List.cons_append]
        at takes
      obtain ⟨rfl, leaves⟩ := Prod.mk.inj takes
      rw [List.append_cancel_right leaves]

theorem countNumber?_unread
    {count : Nat}
    (reads : countNumber? extended (text ++ ')' :: behind) =
      some (count, rest ++ ')' :: behind)) :
    countNumber? extended text = some (count, rest) := by
  obtain ⟨value, isNumber, read⟩ := Option.bind_eq_some_iff.mp reads
  obtain ⟨rfl, skips⟩ := Prod.mk.inj (Option.some.inj read)
  have outer :=
    (takeDigits_suffix extended _).trans
      (trimLeft_suffix (text ++ ')' :: behind))
  rcases takes :
    takeDigits extended
      (Text.trimLeft (text ++ ')' :: behind)) with ⟨digits, left⟩
  rw [takes] at skips outer isNumber
  dsimp only at skips outer isNumber
  obtain ⟨own, isOwn, -, -⟩ := exists_eq_append_of_suffix
    (skips ▸ skipIgnored_suffix extended _)
    ((trimLeft_suffix left).trans outer)
  rw [isOwn] at skips
  obtain ⟨left, rfl, -, -⟩ :=
    exists_eq_append_of_suffix (isOwn ▸ trimLeft_suffix left) outer
  rw [trimLeft_append] at takes
  unfold countNumber?
  rw [takeDigits_unread takes]
  simp only [trimLeft_unread isOwn, skipIgnored_unread skips, isNumber]
  rfl

theorem upperCount?_of_ne {c : Char} (noBrace : c ≠ '\x7d') :
    upperCount? extended (c :: text) =
      (countNumber? extended (c :: text)).map fun (most, rest) =>
        (some most, rest) := by
  rw [upperCount?]
  simp [noBrace]

theorem upperCount?_unread
    {most : Option Nat}
    (reads : upperCount? extended (text ++ ')' :: behind) =
      some (most, rest ++ ')' :: behind)) :
    upperCount? extended text = some (most, rest) := by
  cases text with
  | nil =>
      rw [List.nil_append, upperCount?_of_ne (by decide)] at reads
      obtain ⟨⟨number, left⟩, readsNumber, ⟨⟩⟩ :=
        Option.map_eq_some_iff.mp reads
      rw [upperCount?, countNumber?_unread readsNumber]
      · rfl
      · simp
  | cons c text =>
      by_cases brace : c = '\x7d'
      · subst brace
        rw [List.cons_append, upperCount?, ← List.cons_append] at reads
        obtain ⟨rfl, leaves⟩ := Prod.mk.inj (Option.some.inj reads)
        rw [upperCount?, List.append_cancel_right leaves]
      · rw [List.cons_append, upperCount?_of_ne brace, ← List.cons_append]
          at reads
        obtain ⟨⟨number, left⟩, readsNumber, ⟨⟩⟩ :=
          Option.map_eq_some_iff.mp reads
        rw [upperCount?_of_ne brace, countNumber?_unread readsNumber]
        rfl

theorem mostCount?_unread
    {least : Nat}
    {most : Option Nat}
    (reads : mostCount? extended least (text ++ ')' :: behind) =
      some (most, rest ++ ')' :: behind)) :
    mostCount? extended least text = some (most, rest) := by
  cases text with
  | nil =>
      obtain ⟨rfl, leaves⟩ := Prod.mk.inj (Option.some.inj reads)
      rw [List.self_eq_append_left.mp leaves]
      rfl
  | cons c text =>
      by_cases comma : c = ','
      · subst comma
        rw [List.cons_append, mostCount?] at reads
        obtain ⟨own, skips, -, -⟩ := exists_eq_append_of_suffix
          (upperCount?_suffix reads)
          (skipIgnored_suffix extended (text ++ ')' :: behind))
        rw [skips] at reads
        rw [mostCount?, skipIgnored_unread skips]
        exact upperCount?_unread reads
      · have alone : ∀ text, mostCount? extended least (c :: text) =
            some (some least, c :: text) := by
          intro text
          rw [mostCount?]
          simp [comma]
        rw [List.cons_append, alone] at reads
        obtain ⟨rfl, leaves⟩ := Prod.mk.inj (Option.some.inj reads)
        rw [← List.cons_append] at leaves
        rw [alone, List.append_cancel_right leaves]

theorem countsEnd?_unread
    (reads : countsEnd? extended (text ++ ')' :: behind) =
      some (rest ++ ')' :: behind)) :
    countsEnd? extended text = some rest := by
  cases text with
  | nil => cases reads
  | cons c text =>
      by_cases brace : c = '\x7d'
      · subst brace
        rw [countsEnd?, skipIgnored_unread (Option.some.inj reads)]
      · unfold countsEnd? at reads
        split at reads
        · simp_all
        · cases reads

theorem counts?_unread
    {least : Nat}
    {most : Option Nat}
    (reads : counts? flags (text ++ ')' :: behind) =
      some (least, most, rest ++ ')' :: behind)) :
    counts? flags text = some (least, most, rest) := by
  rw [counts?_eq] at reads ⊢
  simp only [Option.bind_eq_some_iff] at reads
  obtain ⟨⟨number, left⟩, readsLeast, ⟨most', more⟩, readsMost, ending, closes,
      reads⟩ := reads
  split at reads
  · rename_i ordered
    cases reads
    have outer := skipIgnored_suffix flags.extended (text ++ ')' :: behind)
    obtain ⟨own, skips, -, -⟩ := exists_eq_append_of_suffix
      (((countsEnd?_suffix closes).trans (mostCount?_suffix readsMost)).trans
        (countNumber?_suffix readsLeast)) outer
    rw [skips] at readsLeast
    obtain ⟨left, rfl, -, -⟩ := exists_eq_append_of_suffix
      ((countsEnd?_suffix closes).trans (mostCount?_suffix readsMost))
      (countNumber?_suffix readsLeast)
    obtain ⟨more, rfl, -, -⟩ := exists_eq_append_of_suffix
      (countsEnd?_suffix closes)
      (mostCount?_suffix readsMost)
    rw [skipIgnored_unread skips, countNumber?_unread readsLeast]
    simp only [Option.bind_some, mostCount?_unread readsMost,
      countsEnd?_unread closes, if_pos ordered]
  · cases reads

theorem preferenceMark_append (text : List Char) :
    preferenceMark (text ++ ')' :: behind) =
      ((preferenceMark text).1, (preferenceMark text).2 ++ ')' :: behind) := by
  cases text with
  | nil => rfl
  | cons c text =>
      by_cases marked : c = '?'
      · subst marked
        rfl
      · unfold preferenceMark
        split <;> split <;> simp_all

theorem repeatLast?_unread
    {least : Nat}
    {most : Option Nat}
    {parts repeated : Parts}
    {flags' : Flags}
    {names names' : List String}
    {before before' : List Char}
    (reads : repeatLast? least most parts ⟨flags, names, before⟩
      (text ++ ')' :: behind) =
      some (repeated, ⟨flags', names', rest ++ ')' :: behind⟩)) :
    repeatLast? least most parts ⟨flags, names, before'⟩ text =
      some (repeated, ⟨flags', names', rest⟩) := by
  unfold repeatLast? at reads ⊢
  rw [preferenceMark_append] at reads
  split at reads
  · simp only [Option.some.injEq, Prod.mk.injEq, State.mk.injEq] at reads ⊢
    obtain ⟨rfl, rfl, rfl, leaves⟩ := reads
    exact ⟨rfl, rfl, rfl, List.append_cancel_right leaves⟩
  · cases reads

theorem flagLetters?_letter
    {on : Bool}
    {seen : List Char}
    {c : Char}
    (noColon : c ≠ ':')
    (noClosing : c ≠ ')')
    (noHyphen : c ≠ '-') :
    flagLetters? flags on seen (c :: text) =
      if seen.contains c then none
      else (flags.switch? c on).bind fun flags =>
        flagLetters? flags on (c :: seen) text := by
  rw [flagLetters?]
  · cases flags.switch? c on <;> rfl
  · exact noColon
  · exact noClosing
  · exact noHyphen

theorem flagLetters?_unread
    {on someFlags : Bool}
    {seen : List Char}
    {switched : Flags}
    {c : Char}
    (reads : flagLetters? flags on seen (text ++ ')' :: behind) =
      some (switched, someFlags, c :: rest ++ ')' :: behind)) :
    flagLetters? flags on seen text =
      some (switched, someFlags, c :: rest) := by
  fun_induction flagLetters? flags on seen text with
  | case1 flags on seen =>
      rw [List.nil_append, flagLetters?] at reads
      split at reads
      · cases reads
      · have leaves := congrArg (fun read => read.2.2.length)
          (Option.some.inj reads)
        simp only [List.length_append, List.length_cons] at leaves
        omega
  | case2 flags on seen more hyphen =>
      rw [List.cons_append, flagLetters?, if_pos hyphen] at reads
      cases reads
  | case3 flags on seen more noHyphen | case5 flags on seen more noHyphen =>
      rw [List.cons_append, flagLetters?, if_neg noHyphen, ← List.cons_append]
        at reads
      simp only [Option.some.injEq, Prod.mk.injEq] at reads
      obtain ⟨rfl, rfl, leaves⟩ := reads
      rw [List.append_cancel_right leaves]
  | case4 flags on seen more hyphen =>
      rw [List.cons_append, flagLetters?, if_pos hyphen] at reads
      cases reads
  | case6 flags on seen more known =>
      rw [List.cons_append, flagLetters?, if_pos known] at reads
      cases reads
  | case7 flags on seen more isNew hypothesis =>
      rw [List.cons_append, flagLetters?, if_neg isNew] at reads
      exact hypothesis reads
  | case8 flags on seen d more noColon noClosing noHyphen known =>
      rw [List.cons_append, flagLetters?_letter noColon noClosing noHyphen,
        if_pos known] at reads
      cases reads
  | case9 flags on seen d more noColon noClosing noHyphen isNew switched
      isLetter hypothesis =>
      rw [List.cons_append, flagLetters?_letter noColon noClosing noHyphen,
        if_neg isNew, isLetter] at reads
      exact hypothesis reads
  | case10 flags on seen d more noColon noClosing noHyphen isNew noLetter =>
      rw [List.cons_append, flagLetters?_letter noColon noClosing noHyphen,
        if_neg isNew, noLetter] at reads
      cases reads

theorem groupName?_unread
    {names : List String}
    {name : String}
    (reads : groupName? names (text ++ ')' :: behind) =
      some (name, rest ++ ')' :: behind)) :
    groupName? names text = some (name, rest) := by
  unfold groupName? at reads ⊢
  simp only [Option.bind_eq_bind] at reads ⊢
  cases drops :
    (text ++ ')' :: behind).dropWhile (fun c => decide (c ≠ '>')) with
  | nil =>
      rw [drops] at reads
      cases reads
  | cons c left =>
      rw [drops] at reads
      simp only [Option.bind_some, Option.bind_eq_some_iff] at reads
      obtain ⟨first, isFirst, _, starts, _, letters, _, isNew, ⟨⟩⟩ := reads
      have drops := dropWhile_unread drops
      rw [takeWhile_append_of_dropWhile_eq drops] at *
      rw [drops]
      simp only [Option.bind_some, isFirst, starts, letters, isNew]
      rfl

/-- A group opens with a name in angle brackets that no look-around begins
with. -/
theorem opening?_angle
    {state : State}
    (skips : skipIgnored state.flags.extended state.rest = '?' :: '<' :: text)
    (noEqual : ∀ rest, text ≠ '=' :: rest)
    (noMark : ∀ rest, text ≠ '!' :: rest) :
    opening? state =
      (groupName? state.names text).map fun (name, rest) =>
        .body true
          { state with names := name :: state.names, rest := rest } := by
  unfold opening?
  rw [skips]
  dsimp only
  split
  case h_1 heading => simp at heading
  case h_2 heading =>
    cases heading
    split
    · exact absurd rfl (noEqual _)
    · exact absurd rfl (noMark _)
    · rfl
  case h_3 noAngle heading =>
    cases heading
    exact absurd rfl (noAngle _)
  case h_4 unmarked => exact absurd rfl (unmarked _)

/-- What the flags of a group open, before a text that begins with their last
mark. -/
def flagsOpening? (names : List String) (switched : Flags) (someFlags : Bool) :
    List Char → Option Opening
  | [] => none
  | c :: rest =>
      if c = ')' then if someFlags then some (.switch switched rest) else none
      else some (.body false ⟨switched, names, rest⟩)

/-- A question mark without a name opens a group with flags. -/
theorem opening?_flags
    {state : State}
    (skips : skipIgnored state.flags.extended state.rest = '?' :: text)
    (noName : ∀ rest, text ≠ 'P' :: '<' :: rest)
    (noAngle : ∀ rest, text ≠ '<' :: rest) :
    opening? state =
      (flagLetters? state.flags true [] text).bind
        fun (switched, someFlags, rest) =>
        flagsOpening? state.names switched someFlags rest := by
  unfold opening?
  rw [skips]
  dsimp only
  split
  any_goals simp_all
  cases flagLetters? state.flags true [] _ with
  | none => rfl
  | some read =>
      obtain ⟨switched, someFlags, rest⟩ := read
      cases rest with
      | nil => rfl
      | cons c rest => by_cases closes : c = ')' <;>
          simp [flagsOpening?, closes]

/-- A group opens without a question mark. -/
theorem opening?_plain
    {state : State}
    (skips : skipIgnored state.flags.extended state.rest = text)
    (noMark : ∀ rest, text ≠ '?' :: rest) :
    opening? state = some (.body true { state with rest := text }) := by
  unfold opening?
  rw [skips]
  dsimp only
  split
  any_goals simp_all

/-- An opening with another text after it. -/
def Opening.leaving (left : List Char) : Opening → Opening
  | .switch flags _ => .switch flags left
  | .body recorded state => .body recorded { state with rest := left }

/-- Flags open the same before every text. -/
theorem exists_flagsOpening?_eq
    {names : List String}
    {switched : Flags}
    {someFlags : Bool}
    {opening : Opening}
    (opens : flagsOpening? names switched someFlags text = some opening) :
    ∃ c, text = c :: opening.left ∧
      ∀ left, flagsOpening? names switched someFlags (c :: left) =
        some (opening.leaving left) := by
  cases text with
  | nil => cases opens
  | cons c rest =>
      rw [flagsOpening?] at opens
      split at opens
      · rename_i closes
        split at opens
        · rename_i someLetter
          cases opens
          exact ⟨c, rfl,
            fun left => by
            rw [flagsOpening?, if_pos closes, if_pos someLetter]; rfl⟩
        · cases opens
      · rename_i noClosing
        cases opens
        exact ⟨c, rfl, fun left => by rw [flagsOpening?, if_neg noClosing]; rfl⟩

theorem opening?_unread
    {names : List String}
    {opening : Opening}
    (reads : opening? ⟨flags, names, text ++ ')' :: behind⟩ = some opening)
    (leaves : opening.left = rest ++ ')' :: behind) :
    opening? ⟨flags, names, text⟩ = some (opening.leaving rest) := by
  have opens := reads
  unfold opening? at reads
  dsimp only at reads
  split at reads
  · rename_i more skipped
    obtain ⟨⟨name, left⟩, readsName, ⟨⟩⟩ := Option.map_eq_some_iff.mp reads
    cases leaves
    obtain ⟨own, rfl, -, skipped⟩ := exists_skipIgnored_eq
      ['?', 'P', '<'] skipped
      (groupName?_suffix readsName)
    unfold opening?
    rw [skipped]
    change Option.map _ (groupName? names own) = _
    rw [groupName?_unread readsName]
    rfl
  · rename_i more skipped
    split at reads
    · cases reads
    · cases reads
    · rename_i noEqual noMark
      obtain ⟨⟨name, left⟩, readsName, ⟨⟩⟩ := Option.map_eq_some_iff.mp reads
      cases leaves
      obtain ⟨own, rfl, -, (skipped : _ = '?' :: '<' :: own)⟩ :=
        exists_skipIgnored_eq ['?', '<'] skipped (groupName?_suffix readsName)
      rw [opening?_angle skipped
        (fun rest isEqual => noEqual _ (by rw [isEqual]; rfl))
        (fun rest isMark =>
          noMark _ (by rw [isMark]; rfl)), groupName?_unread readsName]
      rfl
  · rename_i more noName noAngle skipped
    rw [opening?_flags skipped noName noAngle] at opens
    obtain ⟨⟨switched, someFlags, left⟩, letters, opens⟩ :=
      Option.bind_eq_some_iff.mp opens
    obtain ⟨c, rfl, same⟩ := exists_flagsOpening?_eq opens
    rw [leaves] at letters
    have inner : c :: rest ++ ')' :: behind <:+ more :=
      flagLetters?_suffix letters
    obtain ⟨own, rfl, -, skipped⟩ := exists_skipIgnored_eq_cons skipped inner
    rw [opening?_flags skipped
      (fun rest isName => noName _ (by rw [isName]; rfl))
      (fun rest isAngle => noAngle _ (by rw [isAngle]; rfl)),
      flagLetters?_unread letters]
    exact same rest
  · rename_i noMark
    cases reads
    have skips : skipIgnored flags.extended (text ++ ')' :: behind) =
        rest ++ ')' :: behind :=
      leaves
    rw [opening?_plain (skipIgnored_unread skips)
      (fun more isMark => noMark (more ++ ')' :: behind)
      (skips.trans (by rw [isMark]; rfl)))]
    rfl

theorem endsSequence_append (text : List Char) :
    endsSequence (text ++ ')' :: behind) = endsSequence text := by
  cases text <;> rfl

section Properties

variable [Properties]

section Parts

variable {group group' : State → Option (Nested × State)}
  {set set' : List Char → Option (NestedSet × List Char)} {parts longer : Parts}
  {flags' : Flags} {names names' : List String} {before : List Char}
  (before' : List Char)
  (groupLeft : ∀ {state body next}, group state = some (body, next) →
    next.rest <:+ state.rest)
  (groupUnread : ∀ {flags flags' names names' more body rest}, more <:+ text →
    group ⟨flags, names, more ++ ')' :: behind⟩ =
      some (body, ⟨flags', names', rest ++ ')' :: behind⟩) →
    group' ⟨flags, names, more⟩ = some (body, ⟨flags', names', rest⟩))
include groupLeft groupUnread

/-- A group is read the same if the text ends where more is left, where the
alternatives in it are. -/
theorem part?_group_unread
    (reads : part? group set parts ⟨flags, names, before⟩
      ('(' :: text ++ ')' :: behind) =
      some (longer, ⟨flags', names', rest ++ ')' :: behind⟩)) :
    part? group' set' parts ⟨flags, names, before'⟩ ('(' :: text) =
      some (longer, ⟨flags', names', rest⟩) := by
  rw [List.cons_append, part?] at reads
  obtain ⟨opening, opens, reads⟩ := Option.bind_eq_some_iff.mp reads
  rw [part?]
  cases opening with
  | switch switched left =>
      obtain ⟨rfl, next⟩ := Prod.mk.inj (Option.some.inj reads)
      obtain ⟨rfl, rfl, rfl⟩ := State.mk.inj next
      rw [opening?_unread opens rfl]
      rfl
  | body recorded inner =>
      obtain ⟨⟨body, after⟩, readsBody, reads⟩ :=
        Option.bind_eq_some_iff.mp reads
      obtain ⟨flagsAfter, namesAfter, left⟩ := after
      dsimp only at reads
      split at reads
      · obtain ⟨rfl, next⟩ := Prod.mk.inj (Option.some.inj reads)
        obtain ⟨rfl, rfl, rfl⟩ := State.mk.inj next
        obtain ⟨flags, names, inside⟩ := inner
        have closes : ')' :: rest ++ ')' :: behind <:+ inside :=
          groupLeft readsBody
        obtain ⟨own, rfl, -, isSuffix⟩ :=
          exists_eq_append_of_suffix closes (opening?_suffix opens)
        rw [← List.cons_append] at readsBody
        rw [opening?_unread opens rfl, Option.bind_some]
        dsimp only [Opening.leaving]
        rw [groupUnread isSuffix readsBody]
        rfl
      · cases reads

/-- A part is read the same if the text ends where more is left, but for a brace
behind a word boundary at the end of the text. -/
theorem part?_unread
    {c : Char}
    (setUnread : ∀ {nested rest},
      set (text ++ ')' :: behind) = some (nested, rest ++ ')' :: behind) →
      set' text = some (nested, rest))
    (reads : part? group set parts ⟨flags, names, before⟩
      (c :: text ++ ')' :: behind) =
      some (longer, ⟨flags', names', rest ++ ')' :: behind⟩)) :
    part? group' set' parts ⟨flags, names, before'⟩ (c :: text) =
        some (longer, ⟨flags', names', rest⟩) ∨
      BreaksOff flags'.extended rest := by
  have whole := reads
  rw [List.cons_append] at reads
  unfold part? at reads
  split at reads
  case h_1 heading =>
    obtain ⟨rfl, rfl⟩ := List.cons.inj heading
    exact .inl (part?_group_unread before' groupLeft groupUnread whole)
  case h_2 heading =>
    left
    obtain ⟨rfl, rfl⟩ := List.cons.inj heading
    obtain ⟨⟨nested, left⟩, readsSet, read⟩ := Option.map_eq_some_iff.mp reads
    obtain ⟨rfl, next⟩ := Prod.mk.inj read
    obtain ⟨rfl, rfl, rfl⟩ := State.mk.inj next
    rw [part?, setUnread readsSet]
    rfl
  case h_3 heading | h_4 heading | h_5 heading =>
    left
    obtain ⟨rfl, rfl⟩ := List.cons.inj heading
    rw [part?]
    exact repeatLast?_unread reads
  case h_6 heading =>
    left
    obtain ⟨rfl, rfl⟩ := List.cons.inj heading
    obtain ⟨⟨least, most, left⟩, readsCounts, reads⟩ :=
      Option.bind_eq_some_iff.mp reads
    obtain ⟨left, rfl, -, -⟩ := exists_eq_append_of_suffix
      (repeatLast?_suffix reads)
      (counts?_suffix readsCounts)
    rw [part?, counts?_unread readsCounts]
    exact repeatLast?_unread reads
  case h_7 =>
    obtain ⟨⟨symbol, left⟩, readsSymbol, read⟩ :=
      Option.map_eq_some_iff.mp reads
    obtain ⟨rfl, next⟩ := Prod.mk.inj read
    obtain ⟨rfl, rfl, rfl⟩ := State.mk.inj next
    refine (symbol?_unread readsSymbol).imp_left fun readsSymbol => ?_
    unfold part?
    split
    any_goals simp_all

end Parts

/-- Nothing is read at a brace that breaks off. -/
theorem parts?_of_breaksOff
    (fuel : Nat)
    (parts : Parts)
    (names : List String)
    (breaksOff : BreaksOff flags.extended text) :
    parts? fuel parts ⟨flags, names, text⟩ = none := by
  obtain ⟨more, rfl, ignored⟩ := breaksOff
  cases fuel with
  | zero => exact parts?_zero parts _
  | succ fuel =>
      have notBlank : Text.isBlank '\x7b' = false := by decide
      have skips : skipIgnored flags.extended ('\x7b' :: more) =
          '\x7b' :: more := by
        simp [skipIgnored, notBlank]
      have noCounts : counts? flags more = none := by
        have noNumber : countNumber? flags.extended [] = none := by
          simp [countNumber?, Text.trimLeft, takeDigits, Text.natural?,
            Text.digits?]
        rw [counts?_eq, ignored, noNumber]
        rfl
      rw [parts?_succ, skips]
      dsimp only
      rw [if_neg (by simp [endsSequence]), part?, noCounts]
      rfl

/-- With some fuel, alternatives are read the same if the text ends where more
is left. Fuel of a little more than twice the length of the text is enough for
that. -/
def AlternativesUnread (fuel : Nat) : Prop :=
  ∀ {behind before flags flags' names names' text body rest enough},
    alternatives? fuel before ⟨flags, names, text ++ ')' :: behind⟩ =
      some (body, ⟨flags', names', rest ++ ')' :: behind⟩) →
    2 * text.length + 2 ≤ enough →
    alternatives? enough before ⟨flags, names, text⟩ =
      some (body, ⟨flags', names', rest⟩)

/-- With some fuel, the parts of a sequence are read the same if the text ends
where more is left. -/
def PartsUnread (fuel : Nat) : Prop :=
  ∀ {behind parts flags flags' names names' text body rest enough},
    parts? fuel parts ⟨flags, names, text ++ ')' :: behind⟩ =
      some (body, ⟨flags', names', rest ++ ')' :: behind⟩) →
    2 * text.length + 1 ≤ enough →
    parts? enough parts ⟨flags, names, text⟩ =
      some (body, ⟨flags', names', rest⟩)

variable {fuel : Nat}

/-- Alternatives are read one by one. -/
theorem alternativesUnread_succ
    (alternatives : AlternativesUnread fuel)
    (parts : PartsUnread fuel) :
    AlternativesUnread (fuel + 1) := by
  intro behind before flags flags' names names' text body rest enough
    reads isEnough
  obtain ⟨enough, rfl⟩ :=
    Nat.exists_eq_add_one_of_ne_zero (Nat.ne_zero_of_lt isEnough)
  rw [alternatives?_succ] at reads ⊢
  obtain ⟨⟨last, flags₁, names₁, left⟩, readsParts, reads⟩ :=
    Option.bind_eq_some_iff.mp reads
  have outer := (alternatives?_and_parts?_suffix fuel).2 readsParts
  dsimp only at reads outer
  split at reads
  · rename_i more
    obtain ⟨own, rfl, -, isSuffix⟩ := exists_eq_append_of_suffix_cons
      ((alternatives?_and_parts?_suffix fuel).1 reads) outer
    have shorter := isSuffix.length_le
    rw [List.length_cons] at shorter
    rw [← List.cons_append] at readsParts
    rw [parts readsParts (by omega), Option.bind_some]
    exact alternatives reads (by omega)
  · rename_i noBar
    cases reads
    rw [parts readsParts (by omega), Option.bind_some]
    dsimp only
    split
    · exact absurd rfl (noBar _)
    · rfl

/-- Parts are read one by one. The one in front of a brace that breaks off is
not the last one, and no other follows it. -/
theorem partsUnread_succ
    (alternatives : AlternativesUnread fuel)
    (parts : PartsUnread fuel) :
    PartsUnread (fuel + 1) := by
  intro behind before flags flags' names names' text body rest enough
    reads isEnough
  obtain ⟨enough, rfl⟩ :=
    Nat.exists_eq_add_one_of_ne_zero (Nat.ne_zero_of_lt isEnough)
  rw [parts?_succ] at reads ⊢
  dsimp only at reads ⊢
  split at reads
  · rename_i ends
    obtain ⟨rfl, next⟩ := Prod.mk.inj (Option.some.inj reads)
    obtain ⟨rfl, rfl, skips⟩ := State.mk.inj next
    rw [skips, endsSequence_append] at ends
    rw [skipIgnored_unread skips, if_pos ends]
  · rename_i goesOn
    obtain ⟨⟨longer, flags₁, names₁, left⟩, readsPart, reads⟩ :=
      Option.bind_eq_some_iff.mp reads
    cases skips : skipIgnored flags.extended (text ++ ')' :: behind) with
    | nil => exact absurd (skips ▸ rfl) goesOn
    | cons c more =>
        rw [skips] at readsPart goesOn
        have inner := (alternatives?_and_parts?_suffix fuel).2 reads
        have outer := part?_suffix (alternatives?_and_parts?_suffix fuel).1
          bracketed?_suffix
          readsPart
        obtain ⟨own, rfl, -, skipped⟩ :=
          exists_skipIgnored_eq_cons skips (inner.trans outer)
        obtain ⟨left, rfl, -, isSuffix⟩ :=
          exists_eq_append_of_suffix inner outer
        have shorter :=
          (skipped ▸ skipIgnored_suffix flags.extended text).length_le
        have shorterLeft := isSuffix.length_le
        rw [List.length_cons] at shorter
        rw [← List.cons_append, endsSequence_append] at goesOn
        have enoughLeft : 2 * left.length + 1 ≤ enough := by omega
        have read := parts reads enoughLeft
        rw [skipped, if_neg goesOn]
        have enoughOwn : own.length < enough := by omega
        rcases part?_unread text (alternatives?_and_parts?_suffix fuel).1
          (fun {_ _ _ _ more _ _} isSuffix reads =>
            have enoughMore : 2 * more.length + 2 ≤ enough := by
              have := isSuffix.length_le
              omega
            alternatives reads enoughMore)
          (fun reads => bracketed?_unread reads enoughOwn)
            readsPart with readsPart | breaksOff
        · rw [readsPart]
          exact read
        · rw [parts?_of_breaksOff _ _ _ breaksOff] at read
          cases read

/-- Alternatives and the parts of a sequence are read the same if the text ends
where more is left. -/
theorem alternativesUnread_and_partsUnread (fuel : Nat) :
    AlternativesUnread fuel ∧ PartsUnread fuel := by
  induction fuel with
  | zero =>
      constructor
      · intro behind before flags flags' names names' text body rest
          enough reads
        rw [alternatives?_zero] at reads
        cases reads
      · intro behind before flags flags' names names' text body rest
          enough reads
        rw [parts?_zero] at reads
        cases reads
  | succ fuel hypothesis =>
      obtain ⟨alternatives, parts⟩ := hypothesis
      exact ⟨alternativesUnread_succ alternatives parts,
        partsUnread_succ alternatives parts⟩

end Properties

end Regex
end SearchQuery
