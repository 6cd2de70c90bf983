import SearchQuery.Proofs.ByteOrder
import SearchQuery.Proofs.Pieces
import SearchQuery.Proofs.VersionOrder

/-!
# Versions in the documented order

In the documented order a part made only of digits is a number, however long it
is, and no other part is one. Parts are read as numbers of 64 bits with an
optional plus. The two orders agree on versions all of whose parts are plain,
that is, on which the two readings agree.
-/

namespace SearchQuery
namespace Version

/-- The number that a part made only of digits spells, however long it is. -/
def number? (part : List Char) : Option Nat :=
  if part ≠ [] ∧ part.all Char.isDigit =
    true then some (Nat.ofDigitChars 10 part 0) else none

/-- The documented order of two parts: numbers by value and before all other
parts, which are ordered by their bytes. -/
def documentedPartOrder (a b : List Char) : Ordering :=
  match number? a, number? b with
  | some n, some m => compare n m
  | some _, none => .lt
  | none, some _ => .gt
  | none, none =>
      compare (a.flatMap String.utf8EncodeChar)
        (b.flatMap String.utf8EncodeChar)

/-- The parts of a version before its first hyphen. -/
def coreParts (version : String) : List (List Char) :=
  (version.toList.takeWhile (· ≠ '-')).splitOn '.'

/-- The parts of a version after its first hyphen. -/
def preReleaseParts? (version : String) : Option (List (List Char)) :=
  (version.toList.dropWhile (· ≠ '-')).tail?.map (List.splitOn '.')

/-- The parts of a version. -/
def parts (version : String) : List (List Char) :=
  coreParts version ++ (preReleaseParts? version).getD []

/-- The documented order of two cores, where a missing part counts as zero. -/
def documentedCoreOrder (a b : List (List Char)) : Ordering :=
  let length := max a.length b.length
  List.compareLex documentedPartOrder (a.rightpad length ['0'])
    (b.rightpad length ['0'])

/-- The documented order of what follows equal cores: a pre-release before none,
and of two pre-releases the one that ends first where neither part differs. -/
def documentedSuffixOrder :
    Option (List (List Char)) → Option (List (List Char)) → Ordering
  | none, none => .eq
  | some _, none => .lt
  | none, some _ => .gt
  | some a, some b => List.compareLex documentedPartOrder a b

/-- The documented order of two versions: by their cores, and then by what
follows these. -/
def documentedOrder (a b : String) : Ordering :=
  (documentedCoreOrder (coreParts a) (coreParts b)).then
    (documentedSuffixOrder (preReleaseParts? a) (preReleaseParts? b))

/-- A part that spells a number only if the number fits 64 bits, and that is not
such a number with a plus before it. -/
structure IsPlain (part : List Char) : Prop where
  fits : ∀ {n}, number? part = some n → n < 2 ^ 64
  unsigned : ∀ {digits n}, part = '+' :: digits → number? digits = some n →
    2 ^ 64 ≤ n

theorem digits?_eq_number? (part : List Char) :
    Text.digits? part = number? part := by
  rfl

theorem number?_plus (digits : List Char) : number? ('+' :: digits) = none :=
  if_neg fun spelled =>
    absurd (List.all_eq_true.mp spelled.2 '+' List.mem_cons_self) (by decide)

/-- A part is read as the number that it spells, after a plus or without one, if
that is small. -/
theorem natural?_eq_filter (bound : Nat) (part : List Char) :
    Text.natural? bound part =
      (number? (match part with | '+' :: digits => digits | _ => part)).filter
        (· < bound) := by
  have read : ∀ digits, (do
      let value ← Text.digits? digits
      guard (value < bound)
      return value) = (number? digits).filter (· < bound) := by
    intro digits
    rw [digits?_eq_number?]
    cases number? digits with
    | none => rfl
    | some n => by_cases small : n < bound <;>
        simp [Option.filter_some, small, guard]
  exact read _

/-- A number that does not fit is not read. -/
theorem natural?_of_large
    {bound n : Nat}
    {part : List Char}
    (spelled : number? part = some n)
    (large : bound ≤ n) :
    Text.natural? bound part = none := by
  rw [natural?_eq_filter]
  split
  · rw [number?_plus] at spelled
    cases spelled
  · rw [spelled]
    exact Option.filter_some_neg (decide_eq_false (not_lt.mpr large))

/-- A number is read with a plus before it, too. -/
theorem natural?_plus
    {bound n : Nat}
    {digits : List Char}
    (spelled : number? digits = some n)
    (small : n < bound) :
    Text.natural? bound ('+' :: digits) = some n := by
  rw [natural?_eq_filter]
  change (number? digits).filter _ = _
  rw [spelled]
  exact Option.filter_some_pos (decide_eq_true small)

/-- Digits come after a slash. -/
theorem slash_lt_of_number? {part : List Char} {n : Nat}
    (spelled : number? part = some n) :
    ['/'] < part := by
  cases part with
  | nil => cases spelled
  | cons c rest =>
      have isDigit : c.isDigit = true := by
        by_contra other
        rw [number?, if_neg fun run =>
          other (List.all_eq_true.mp run.2 c List.mem_cons_self)]
          at spelled
        cases spelled
      rw [Char.isDigit, Bool.and_eq_true, decide_eq_true_iff] at isDigit
      exact .rel (lt_of_lt_of_le (by decide) isDigit.1)

/-- A plain part is read as the number that it spells. -/
theorem IsPlain.natural?_eq {part : List Char} (plain : IsPlain part) :
    Text.natural? (2 ^ 64) part = number? part := by
  rw [natural?_eq_filter]
  split
  · rename_i digits
    rw [number?_plus, Option.filter_eq_none_iff]
    intro n spelled
    have large := plain.unsigned rfl spelled
    rwa [decide_eq_true_iff, not_lt]
  · cases spelled : number? part with
    | none => rfl
    | some n =>
        exact Option.filter_some_pos (decide_eq_true (plain.fits spelled))

/-- The plain parts are those that are read as the numbers that they spell. -/
theorem isPlain_iff_natural?_eq (part : List Char) :
    IsPlain part ↔ Text.natural? (2 ^ 64) part = number? part := by
  refine ⟨IsPlain.natural?_eq, fun agrees => ⟨?_, ?_⟩⟩
  · intro n spelled
    by_contra large
    rw [natural?_of_large spelled (not_lt.mp large), spelled] at agrees
    cases agrees
  · rintro digits n rfl spelled
    by_contra small
    rw [natural?_plus spelled (not_le.mp small), number?_plus] at agrees
    cases agrees

instance (part : List Char) : Decidable (IsPlain part) :=
  decidable_of_iff _ (isPlain_iff_natural?_eq part).symm

/-- The order of two parts by their numbers of 64 bits. -/
theorem partOrder_eq (a b : List Char) :
    partOrder a b = match Text.natural? (2 ^ 64) a,
    Text.natural? (2 ^ 64) b with
      | some n, some m => compare n m
      | some _, none => .lt
      | none, some _ => .gt
      | none, none => textOrder (String.ofList a) (String.ofList b) := by
  rfl

theorem partOrder_eq_documentedPartOrder
    {a b : List Char}
    (plainA : IsPlain a)
    (plainB : IsPlain b) :
    partOrder a b = documentedPartOrder a b := by
  rw [partOrder_eq, documentedPartOrder, plainA.natural?_eq, plainB.natural?_eq,
    textOrder_eq_compare_bytes]

theorem isPlain_slash : IsPlain ['/'] := by
  constructor
  · exact nofun
  · exact nofun

/-- What spells a number that fits 64 bits is plain. -/
theorem isPlain_of_number?
    {part : List Char}
    {n : Nat}
    (spelled : number? part = some n)
    (small : n < 2 ^ 64) :
    IsPlain part := by
  constructor
  · intro m spelledToo
    obtain rfl : n = m := Option.some_inj.mp (spelled.symm.trans spelledToo)
    exact small
  · rintro digits m rfl -
    rw [number?_plus] at spelled
    cases spelled

/-- A number that does not fit 64 bits is not in the documented order with a
slash, and a number with a plus is not in the documented order with the
number. -/
theorem isPlain_iff (part : List Char) :
    IsPlain part ↔
      ∀ other, IsPlain other → partOrder part other =
        documentedPartOrder part other := by
  constructor
  · intro plain other plainOther
    exact partOrder_eq_documentedPartOrder plain plainOther
  · intro agrees
    constructor
    · intro n spelled
      by_contra large
      have before : partOrder ['/'] part = .lt := by
        rw [partOrder_eq, natural?_of_large spelled (not_lt.mp large),
          isPlain_slash.natural?_eq]
        exact textOrder_of_lt (slash_lt_of_number? spelled)
      have swapped : partOrder part ['/'] = (partOrder ['/'] part).swap :=
        Std.OrientedCmp.eq_swap
      have agreed := agrees ['/'] isPlain_slash
      rw [swapped, before, documentedPartOrder, spelled] at agreed
      cases agreed
    · rintro digits n rfl spelled
      by_contra small
      have plain := isPlain_of_number? spelled (not_le.mp small)
      have same : partOrder ('+' :: digits) digits = .eq := by
        rw [partOrder_eq, natural?_plus spelled (not_le.mp small),
          plain.natural?_eq, spelled]
        exact compare_eq_iff_eq.mpr rfl
      have agreed := agrees digits plain
      rw [same, documentedPartOrder, number?_plus, spelled] at agreed
      cases agreed

/-- The core of a version is what stands before its first hyphen, and the
pre-release what stands after it. -/
theorem splitPreRelease_eq (version : String) :
    splitPreRelease version = (version.toList.takeWhile (· ≠ '-'),
      (version.toList.dropWhile (· ≠ '-')).tail?) := by
  rw [splitPreRelease, Text.splitFirst?_eq]
  cases rest : version.toList.dropWhile (· ≠ '-') with
  | nil =>
      have whole :=
        List.takeWhile_append_dropWhile (p := (· ≠ '-')) (l := version.toList)
      rw [rest, List.append_nil] at whole
      rw [whole]
      rfl
  | cons hyphen preRelease => rfl

section Lists

variable {cmp other : List Char → List Char → Ordering} {a b : List (List Char)}

/-- Lists are compared alike where their members are. -/
theorem compareLex_congr (same : ∀ x ∈ a, ∀ y ∈ b, cmp x y = other x y) :
    List.compareLex cmp a b = List.compareLex other a b := by
  induction a generalizing b with
  | nil => cases b <;> rfl
  | cons x a hypothesis =>
      cases b with
      | nil => rfl
      | cons y b =>
          rw [List.compareLex_cons_cons, List.compareLex_cons_cons,
            same x List.mem_cons_self y List.mem_cons_self,
            hypothesis fun x isMember y isMemberToo =>
              same x (List.mem_cons_of_mem _ isMember) y
                (List.mem_cons_of_mem _ isMemberToo)]

/-- Cores of plain parts are in the documented order. -/
theorem coreOrder_eq_documentedCoreOrder
    (plainA : ∀ part ∈ a, IsPlain part)
    (plainB : ∀ part ∈ b, IsPlain part) :
    coreOrder a b = documentedCoreOrder a b := by
  rw [coreOrder_eq_compareLex (max a.length b.length) a b (Nat.le_max_left _ _)
    (Nat.le_max_right _ _)]
  have plainPadded : ∀ {parts : List (List Char)} {length : Nat},
      (∀ part ∈ parts, IsPlain part) →
      ∀ part ∈ parts.rightpad length ['0'], IsPlain part := by
    intro parts length plain part isMember
    rw [List.rightpad, List.mem_append] at isMember
    rcases isMember with isMember | isMember
    · exact plain part isMember
    · rw [List.eq_of_mem_replicate isMember]
      exact isPlain_of_number? (n := 0) rfl (by decide)
  exact compareLex_congr fun x isMember y isMemberToo =>
    partOrder_eq_documentedPartOrder (plainPadded plainA x isMember)
      (plainPadded plainB y isMemberToo)

/-- Pre-releases of plain parts are in the documented order. -/
theorem suffixOrder_eq_documentedSuffixOrder
    {a b : Option (List Char)}
    (plainA : ∀ part ∈ (a.map (List.splitOn '.')).getD [], IsPlain part)
    (plainB : ∀ part ∈ (b.map (List.splitOn '.')).getD [], IsPlain part) :
    suffixOrder a b =
      documentedSuffixOrder (a.map (List.splitOn '.'))
        (b.map (List.splitOn '.')) := by
  cases a with
  | none => cases b <;> rfl
  | some a =>
      cases b with
      | none => rfl
      | some b =>
          rw [suffixOrder, preReleaseOrder_eq_compareLex, Text.split_eq_splitOn,
            Text.split_eq_splitOn]
          exact compareLex_congr fun x isMember y isMemberToo =>
            partOrder_eq_documentedPartOrder (plainA x isMember)
              (plainB y isMemberToo)

end Lists

/-- Versions all of whose parts are plain are in the documented order. -/
theorem order_eq_documentedOrder
    {a b : String}
    (plainA : ∀ part ∈ parts a, IsPlain part)
    (plainB : ∀ part ∈ parts b, IsPlain part) :
    order a b = documentedOrder a b := by
  rw [parts, List.forall_mem_append] at plainA plainB
  have cores := coreOrder_eq_documentedCoreOrder plainA.1 plainB.1
  have suffixes := suffixOrder_eq_documentedSuffixOrder plainA.2 plainB.2
  rw [coreParts, coreParts] at cores
  rw [order_eq_compareLex, compareLex, splitPreRelease_eq, splitPreRelease_eq,
    Text.split_eq_splitOn, Text.split_eq_splitOn, cores, suffixes]
  rfl

/-- A pre-release of plain parts comes before its version, as documented. -/
theorem order_eq_documentedOrder_release :
    order "1.10-rc.2" "1.10" = documentedOrder "1.10-rc.2" "1.10" :=
  order_eq_documentedOrder (by decide) (by decide)

/-- Not all versions are in the documented order: a number that does not fit 64
bits is not read as a number, and one with a plus is. -/
theorem order_ne_documentedOrder :
    order "1.100000000000000000000" "1.20000000000000000000" ≠
        documentedOrder "1.100000000000000000000" "1.20000000000000000000" ∧
      order "1.+5" "1.5" ≠ documentedOrder "1.+5" "1.5" := by
  constructor
  · rw [order_eq_compareLex, compareLex,
      coreOrder_eq_compareLex 2 _ _ (by decide) (by decide)]
    decide
  · rw [order_eq_compareLex, compareLex,
      coreOrder_eq_compareLex 2 _ _ (by decide) (by decide)]
    decide

end Version
end SearchQuery
