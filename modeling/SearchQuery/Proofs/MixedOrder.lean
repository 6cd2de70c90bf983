import SearchQuery.Proofs.Rounding
import SearchQuery.Proofs.ValueOrder

/-!
# The order of values of several kinds

Integers are compared exactly with each other, and as binary numbers with those.
Instants are compared exactly with each other, and by their milliseconds with
integers. Each of the two comparisons is consistent, but a value of the coarser
kind can stand where two values of the finer kind are no longer told apart.
Apart from such values the order of a family is a total preorder.
-/

namespace SearchQuery

theorem Instant.eq_of_order_eq_eq {s t : Instant} (equal : s.order t = .eq) :
    s = t := by
  rw [order, Ordering.then_eq_eq, compare_eq_iff_eq, compare_eq_iff_eq] at equal
  cases s
  cases t
  exact congrArg₂ Instant.mk equal.1 equal.2

namespace Value

/-- How the values of a family are compared: those of the finer kind exactly,
and all others that the family knows by a number. The number does not tell apart
what the exact order does not. -/
structure Scale (family : Family) where
  Fine : Type
  fine : Fine → Fine → Ordering
  [trans : Std.TransCmp fine]
  precise : Value → Option Fine
  coarse : Value → Int
  known_swap : ∀ {a b}, (familyOrder? family a b).isSome = true →
    (familyOrder? family b a).isSome = true
  order_precise : ∀ {a b x y}, precise a = some x → precise b = some y →
    familyOrder? family a b = some (fine x y)
  order_coarse : ∀ {a b}, precise a = none ∨ precise b = none →
    (familyOrder? family a b).isSome = true →
      familyOrder? family a b = some (compare (coarse a) (coarse b))
  coarse_eq : ∀ {a b x y}, precise a = some x → precise b = some y →
    fine x y = .eq →
    coarse a = coarse b

attribute [instance] Scale.trans

/-- The order of three values is transitive from the first to the last, and
equal only if it is so on the way. -/
def IsTransitiveAt (type : FieldType) (a b c : Value) : Prop :=
  (order type a c).isLE = true ∧
    (order type a c = .eq → order type a b = .eq ∧ order type b c = .eq)

namespace Scale

/-- On a scale, one value comes before another although a third value comes
between the second and the first. -/
structure Blurs {family : Family} (scale : Scale family)
    (third first second : Value) : Prop where
  imprecise : scale.precise third = none
  before : ∃ x y, scale.precise first = some x ∧ scale.precise second = some y ∧
    scale.fine x y = .lt
  fromSecond : scale.coarse second ≤ scale.coarse third
  toFirst : scale.coarse third ≤ scale.coarse first

variable {type : FieldType} (scale : Scale type.family) {a b c : Value}
  {x y : scale.Fine}
include scale

theorem order_eq_fine
    (preciseA : scale.precise a = some x)
    (preciseB : scale.precise b = some y) :
    order type a b = scale.fine x y := by
  rw [order, scale.order_precise preciseA preciseB, Option.getD_some]

theorem order_eq_coarse
    (imprecise : scale.precise a = none ∨ scale.precise b = none)
    (known : (familyOrder? type.family a b).isSome = true) :
    order type a b = compare (scale.coarse a) (scale.coarse b) := by
  rw [order, scale.order_coarse imprecise known, Option.getD_some]

/-- The order of two values that a family knows does not depend on the side. -/
theorem order_swap (known : (familyOrder? type.family a b).isSome = true) :
    order type a b = (order type b a).swap := by
  have knownBack := scale.known_swap known
  cases preciseA : scale.precise a with
  | none =>
      rw [scale.order_eq_coarse (.inl preciseA) known,
        scale.order_eq_coarse (.inr preciseA) knownBack]
      exact Std.OrientedOrd.eq_swap
  | some x =>
      cases preciseB : scale.precise b with
      | none =>
          rw [scale.order_eq_coarse (.inr preciseB) known,
            scale.order_eq_coarse (.inl preciseB) knownBack]
          exact Std.OrientedOrd.eq_swap
      | some y =>
          rw [scale.order_eq_fine preciseA preciseB,
            scale.order_eq_fine preciseB preciseA]
          exact Std.OrientedCmp.eq_swap

section Rounds

variable (knownAB : (familyOrder? type.family a b).isSome = true)
  (knownBC : (familyOrder? type.family b c).isSome = true)
  (knownCA : (familyOrder? type.family c a).isSome = true)
  (first : (order type a b).isLE = true) (second : (order type b c).isLE = true)
  (third : (order type c a).isLE = true)
include knownBC knownCA first second third

/-- Values that come round to the first are equal where only the last is of the
coarser kind and does not blur the others. -/
theorem eq_of_round_last
    (preciseA : scale.precise a = some x)
    (preciseB : scale.precise b = some y)
    (imprecise : scale.precise c = none)
    (sharp : ¬scale.Blurs c a b) :
    order type a b = .eq ∧ order type b c = .eq ∧ order type c a = .eq := by
  rw [scale.order_eq_fine preciseA preciseB] at first ⊢
  rw [scale.order_eq_coarse (.inr imprecise) knownBC] at second ⊢
  rw [scale.order_eq_coarse (.inl imprecise) knownCA] at third ⊢
  rw [Int.isLE_compare] at second third
  rw [compare_eq_iff_eq, compare_eq_iff_eq]
  cases ordered : scale.fine x y with
  | lt =>
      exact absurd ⟨imprecise, ⟨x, y, preciseA, preciseB, ordered⟩, second,
        third⟩ sharp
  | eq =>
      have same := scale.coarse_eq preciseA preciseB ordered
      rw [same] at third ⊢
      exact ⟨rfl, le_antisymm second third, le_antisymm third second⟩
  | gt =>
      rw [ordered] at first
      cases first

include knownAB

/-- Values that come round to the first are equal where at most one is of the
finer kind. -/
theorem eq_of_round_coarse
    (impreciseAB : scale.precise a = none ∨ scale.precise b = none)
    (impreciseBC : scale.precise b = none ∨ scale.precise c = none)
    (impreciseCA : scale.precise c = none ∨ scale.precise a = none) :
    order type a b = .eq ∧ order type b c = .eq ∧ order type c a = .eq := by
  rw [scale.order_eq_coarse impreciseAB knownAB] at first ⊢
  rw [scale.order_eq_coarse impreciseBC knownBC] at second ⊢
  rw [scale.order_eq_coarse impreciseCA knownCA] at third ⊢
  rw [Int.isLE_compare] at first second third
  rw [compare_eq_iff_eq, compare_eq_iff_eq, compare_eq_iff_eq]
  exact ⟨by omega, by omega, by omega⟩

/-- Values that come round to the first are equal where none of them blurs the
others. -/
theorem eq_of_round
    (sharp : ¬(scale.Blurs c a b ∨ scale.Blurs a b c ∨ scale.Blurs b c a)) :
    order type a b = .eq ∧ order type b c = .eq ∧ order type c a = .eq := by
  rw [not_or, not_or] at sharp
  obtain ⟨sharpC, sharpA, sharpB⟩ := sharp
  have coarse :=
    scale.eq_of_round_coarse knownAB knownBC knownCA first second third
  cases preciseA : scale.precise a with
  | none =>
      cases preciseB : scale.precise b with
      | none => exact coarse (.inl preciseA) (.inl preciseB) (.inr preciseA)
      | some y =>
          cases preciseC : scale.precise c with
          | none => exact coarse (.inl preciseA) (.inr preciseC) (.inl preciseC)
          | some z =>
              obtain ⟨equalBC, equalCA, equalAB⟩ := scale.eq_of_round_last
                knownCA knownAB second
                third first preciseB preciseC preciseA sharpA
              exact ⟨equalAB, equalBC, equalCA⟩
  | some x =>
      cases preciseB : scale.precise b with
      | none =>
          cases preciseC : scale.precise c with
          | none => exact coarse (.inr preciseB) (.inl preciseB) (.inl preciseC)
          | some z =>
              obtain ⟨equalCA, equalAB, equalBC⟩ := scale.eq_of_round_last
                knownAB knownBC third
                first second preciseC preciseA preciseB sharpB
              exact ⟨equalAB, equalBC, equalCA⟩
      | some y =>
          cases preciseC : scale.precise c with
          | none =>
              exact scale.eq_of_round_last knownBC knownCA first second third
                preciseA preciseB
                preciseC sharpC
          | some z =>
              rw [scale.order_eq_fine preciseA preciseB] at first ⊢
              rw [scale.order_eq_fine preciseB preciseC] at second ⊢
              rw [scale.order_eq_fine preciseC preciseA] at third ⊢
              have back : ∀ {u v w : scale.Fine}, (scale.fine u v).isLE = true →
                  (scale.fine v w).isLE = true → (scale.fine w u).isLE = true →
                    scale.fine u v = .eq := fun atMost next last =>
                Std.OrientedCmp.isLE_antisymm atMost
                  (Std.TransCmp.isLE_trans next last)
              exact ⟨back first second third, back second third first,
                back third first second⟩

end Rounds

/-- The order of three values, each of which comes before the next or is equal
to it, is transitive exactly where none of them blurs the others. -/
theorem isTransitiveAt_iff
    (knownAB : (familyOrder? type.family a b).isSome = true)
    (knownBC : (familyOrder? type.family b c).isSome = true)
    (knownAC : (familyOrder? type.family a c).isSome = true)
    (first : (order type a b).isLE = true)
    (second : (order type b c).isLE = true) :
    IsTransitiveAt type a b c ↔
      ¬(scale.Blurs c a b ∨ scale.Blurs a b c ∨ scale.Blurs b c a) := by
  have swap := scale.order_swap knownAC
  constructor
  · rintro ⟨least, equal⟩ (blurs | blurs | blurs) <;>
      obtain ⟨imprecise, ⟨x, y, preciseX, preciseY, before⟩, fromSecond,
          toFirst⟩ := blurs
    · rw [scale.order_eq_coarse (.inr imprecise) knownAC] at least equal
      rw [scale.order_eq_fine preciseX preciseY, before] at equal
      have same := le_antisymm (Int.isLE_compare.mp least) toFirst
      exact absurd (equal (compare_eq_iff_eq.mpr same)).1 nofun
    · rw [scale.order_eq_coarse (.inl imprecise) knownAC] at least equal
      rw [scale.order_eq_fine preciseX preciseY, before] at equal
      have same := le_antisymm (Int.isLE_compare.mp least) fromSecond
      exact absurd (equal (compare_eq_iff_eq.mpr same)).2 nofun
    · rw [swap, scale.order_eq_fine preciseX preciseY, before] at least
      cases least
  · intro sharp
    have round := fun third =>
      scale.eq_of_round knownAB knownBC (scale.known_swap knownAC) first
      second third sharp
    constructor
    · cases ordered : order type c a with
      | lt => exact absurd (round (ordered ▸ rfl)).2.2 (ordered ▸ nofun)
      | eq => rw [swap, ordered]; rfl
      | gt => rw [swap, ordered]; rfl
    · intro equal
      have isLE : (order type c a).isLE = true := by
        rw [scale.order_swap (scale.known_swap knownAC), equal]
        rfl
      exact ⟨(round isLE).1, (round isLE).2.1⟩

end Scale

theorem familyOrder?_string (a b : Value) :
    familyOrder? .string a b = a.text?.bind fun x =>
      b.text?.map (Version.textOrder x) := by
  cases a <;> cases b <;> rfl

theorem familyOrder?_ip (a b : Value) :
    familyOrder? .ip a b = a.block?.bind fun x =>
      b.block?.map (Block.order x) := by
  cases a <;> cases b <;> rfl

theorem familyOrder?_version (a b : Value) :
    familyOrder? .version a b = a.text?.bind fun x =>
      b.text?.map (Version.order x) := by
  cases a <;> cases b <;> rfl

theorem familyOrder?_boolean (a b : Value) :
    familyOrder? .boolean a b = a.flag?.bind fun x =>
      b.flag?.map (compareOn Bool.toNat x) := by
  cases a <;> cases b <;> rfl

theorem binary64?_of_integer? {value : Value} {n : Int}
    (isInteger : value.integer? = some n) :
    value.binary64? = some (.ofInt n) := by
  cases value <;> cases isInteger <;> rfl

theorem eq_date_of_instant? {value : Value} {instant : Instant}
    (isInstant : value.instant? = some instant) : value = .date instant := by
  cases value <;> cases isInstant
  rfl

namespace Scale

/-- Where all values that a family knows are compared exactly, nothing is left
to a number. -/
def ofExact
    {family : Family}
    {Fine : Type}
    (fine : Fine → Fine → Ordering)
    [trans : Std.TransCmp fine]
    (precise : Value → Option Fine)
    (order_eq : ∀ a b, familyOrder? family a b =
      (precise a).bind fun x => (precise b).map (fine x)) : Scale family where
  Fine := Fine
  fine := fine
  precise := precise
  coarse _ := 0
  known_swap {a b} := by
    rw [order_eq, order_eq]
    cases precise a <;> cases precise b <;> exact id
  order_precise isA isB := by
    rw [order_eq, isA, isB]
    rfl
  order_coarse {a b} imprecise := by
    rw [order_eq]
    rcases imprecise with imprecise | imprecise <;> rw [imprecise]
    · exact nofun
    · cases precise a <;> exact nofun
  coarse_eq _ _ _ := rfl

/-- Numbers: integers exactly, and others by their places among the binary
numbers. -/
def numeric : Scale .numeric where
  Fine := Int
  fine := compare
  precise := integer?
  coarse value := (value.binary64?.getD .zero).place
  known_swap {a b} known := by
    cases a <;> cases b <;> first | rfl | cases known
  order_precise isA isB := by rw [familyOrder?, numericOrder?, isA, isB]
  order_coarse {a b} imprecise := by
    rw [familyOrder?, numericOrder?]
    split
    · rename_i isA isB
      rw [isA, isB] at imprecise
      exact absurd imprecise nofun
    · cases a.binary64? <;> cases b.binary64?
      · exact nofun
      · exact nofun
      · exact nofun
      · exact fun _ => rfl
  coarse_eq isA isB same := by
    rw [binary64?_of_integer? isA, binary64?_of_integer? isB,
      compare_eq_iff_eq.mp same]

/-- Dates: instants exactly, and integers by milliseconds. -/
def date : Scale .date where
  Fine := Instant
  fine := Instant.order
  precise := instant?
  coarse
    | .date instant => instant.milliseconds
    | value => value.integer?.getD 0
  known_swap {a b} known := by
    cases a <;> cases b <;> first | rfl | cases known
  order_precise isA isB := by
    obtain rfl := eq_date_of_instant? isA
    obtain rfl := eq_date_of_instant? isB
    rfl
  order_coarse {a b} imprecise := by
    rw [familyOrder?, dateOrder?.eq_def]
    split
    · exact absurd imprecise nofun
    · exact fun _ => rfl
    · exact fun _ => rfl
    · exact nofun
  coarse_eq isA isB same := by
    obtain rfl := eq_date_of_instant? isA
    obtain rfl := eq_date_of_instant? isB
    exact congrArg Instant.milliseconds (Instant.eq_of_order_eq_eq same)

/-- Every family has a scale. -/
def ofFamily : (family : Family) → Scale family
  | .numeric => numeric
  | .string => ofExact Version.textOrder text? familyOrder?_string
  | .date => date
  | .ip => ofExact Block.order block? familyOrder?_ip
  | .version => ofExact Version.order text? familyOrder?_version
  | .boolean => ofExact (compareOn Bool.toNat) flag? familyOrder?_boolean

end Scale

/-- A value of the coarser kind stands where two values of the finer kind, of
which one is less, are not told apart in that order: it is the number that two
integers are rounded to, or a count of milliseconds that an instant does not
exceed although an earlier instant reaches it. -/
inductive Blurs : Family → Value → Value → Value → Prop
  | number {third : Binary64} {first second : Value} {n m : Int}
      (isFirst : first.integer? = some n) (isSecond : second.integer? = some m)
      (less : n < m)
      (sameFirst : (Binary64.ofInt n).same third = true)
      (sameSecond : (Binary64.ofInt m).same third = true) :
      Blurs .numeric (.float third) first second
  | instant {third : Int64} {first second : Instant}
    (before : first.order second = .lt)
      (reached : third.toInt ≤ first.milliseconds)
      (notExceeded : second.milliseconds ≤ third.toInt) :
      Blurs .date (.int third) (.date first) (.date second)

namespace Scale

variable {third first second : Value}

theorem coarse_numeric {value : Value} {n : Int}
    (isInteger : value.integer? = some n) :
    numeric.coarse value = (Binary64.ofInt n).place :=
  congrArg (fun number => (Option.getD number .zero).place)
    (binary64?_of_integer? isInteger)

/-- A number blurs two integers exactly where both are rounded to it, since
integers are not rounded past each other. -/
theorem blurs_numeric_iff
    (known : (familyOrder? .numeric third first).isSome = true) :
    numeric.Blurs third first second ↔
      Value.Blurs .numeric third first second := by
  constructor
  · rintro ⟨imprecise, ⟨(n : Int), (m : Int), isFirst, isSecond, before⟩,
      fromSecond, toFirst⟩
    have less : n < m := compare_lt_iff_lt.mp before
    have rounded := Binary64.place_ofInt_le less.le
    rw [coarse_numeric isSecond] at fromSecond
    rw [coarse_numeric isFirst] at toFirst
    cases third with
    | float number =>
        replace fromSecond : (Binary64.ofInt m).place ≤ number.place :=
          fromSecond
        replace toFirst : number.place ≤ (Binary64.ofInt n).place := toFirst
        exact .number isFirst isSecond less (beq_iff_eq.mpr (by omega))
          (beq_iff_eq.mpr (by omega))
    | int _ | uint _ => cases imprecise
    | _ => cases first <;> cases known
  · rintro (⟨isFirst, isSecond, less, sameFirst, sameSecond⟩ | _)
    refine ⟨rfl, ⟨_, _, isFirst, isSecond, compare_lt_iff_lt.mpr less⟩, ?_, ?_⟩
    · rw [coarse_numeric isSecond]
      exact (beq_iff_eq.mp sameSecond).le
    · rw [coarse_numeric isFirst]
      exact (beq_iff_eq.mp sameFirst).ge

/-- An integer blurs two instants exactly where the milliseconds of the instants
say so. -/
theorem blurs_date_iff
    (known : (familyOrder? .date third first).isSome = true) :
    date.Blurs third first second ↔ Value.Blurs .date third first second := by
  constructor
  · rintro ⟨imprecise, ⟨s, t, isFirst, isSecond, before⟩, fromSecond, toFirst⟩
    obtain rfl := eq_date_of_instant? isFirst
    obtain rfl := eq_date_of_instant? isSecond
    cases third with
    | int milliseconds => exact .instant before toFirst fromSecond
    | date instant => cases imprecise
    | _ => cases known
  · rintro (_ | ⟨before, reached, notExceeded⟩)
    exact ⟨rfl, ⟨_, _, rfl, rfl, before⟩, notExceeded, reached⟩

/-- Nothing is blurred where all values that a family knows are compared
exactly. -/
theorem not_blurs_ofExact
    {family : Family}
    {Fine : Type}
    {fine : Fine → Fine → Ordering}
    [trans : Std.TransCmp fine]
    {precise : Value → Option Fine}
    (order_eq : ∀ a b, familyOrder? family a b =
      (precise a).bind fun x => (precise b).map (fine x))
    (known : (familyOrder? family third first).isSome = true) :
    ¬(ofExact fine precise order_eq).Blurs third first second := by
  intro blurs
  have imprecise : precise third = none := blurs.imprecise
  rw [order_eq, imprecise] at known
  cases known

/-- What is blurred on the scale of a family. -/
theorem blurs_ofFamily_iff
    {family : Family}
    (known : (familyOrder? family third first).isSome = true) :
    (ofFamily family).Blurs third first second ↔
      Value.Blurs family third first second := by
  cases family with
  | numeric => exact blurs_numeric_iff known
  | date => exact blurs_date_iff known
  | string =>
      exact iff_of_false (not_blurs_ofExact familyOrder?_string known) nofun
  | ip => exact iff_of_false (not_blurs_ofExact familyOrder?_ip known) nofun
  | version =>
      exact iff_of_false (not_blurs_ofExact familyOrder?_version known) nofun
  | boolean =>
      exact iff_of_false (not_blurs_ofExact familyOrder?_boolean known) nofun

end Scale

/-- Two values of a family are ordered in reverse from the other side. And of
three values, each of which comes before the next or is equal to it, the first
comes before the last, and is equal to it only if all are equal, exactly where
none of the three blurs the others. -/
theorem order_swap_and_isTransitiveAt_iff
    (type : FieldType)
    {a b c : Value}
    (knownAB : (familyOrder? type.family a b).isSome = true)
    (knownBC : (familyOrder? type.family b c).isSome = true)
    (knownAC : (familyOrder? type.family a c).isSome = true) :
    order type a b = (order type b a).swap ∧
      ((order type a b).isLE = true → (order type b c).isLE = true →
        (IsTransitiveAt type a b c ↔
          ¬(Blurs type.family c a b ∨ Blurs type.family a b c ∨
          Blurs type.family b c a))) := by
  have knownCA := (Scale.ofFamily type.family).known_swap knownAC
  refine ⟨(Scale.ofFamily type.family).order_swap knownAB,
    fun first second => ?_⟩
  rw [(Scale.ofFamily type.family).isTransitiveAt_iff knownAB knownBC knownAC
    first second,
    Scale.blurs_ofFamily_iff knownCA, Scale.blurs_ofFamily_iff knownAB,
    Scale.blurs_ofFamily_iff knownBC]

/-- The number two and a half, which lies between two and three, blurs no two of
the three. -/
theorem order_swap_and_isTransitiveAt_iff_half :
    order .double (.int 2) (.float ⟨0x4004000000000000⟩) =
        (order .double (.float ⟨0x4004000000000000⟩) (.int 2)).swap ∧
      IsTransitiveAt .double (.int 2) (.float ⟨0x4004000000000000⟩)
        (.uint 3) := by
  obtain ⟨swap, transitive⟩ := order_swap_and_isTransitiveAt_iff .double
    (a := .int 2) (b := .float ⟨0x4004000000000000⟩) (c := .uint 3) rfl rfl rfl
  refine ⟨swap, (transitive (by decide) (by decide)).mpr ?_⟩
  rintro (blurs | blurs | ⟨isFirst, isSecond, less, -, -⟩)
  · cases blurs
  · cases blurs
  · cases isFirst
    cases isSecond
    exact absurd less (by decide)

/-- The order of a field type is a total preorder on the values that its family
knows. -/
def IsTotalPreorder (type : FieldType) : Prop :=
  ∀ a b c, (familyOrder? type.family a b).isSome = true →
    (familyOrder? type.family b c).isSome = true →
      (familyOrder? type.family a c).isSome = true →
      order type a b = (order type b a).swap ∧
        ((order type a b).isLE = true → (order type b c).isLE = true →
          IsTransitiveAt type a b c)

/-- The order of numbers and the order of dates are no total preorders: a number
or a count of milliseconds may be equal to different values. -/
theorem not_isTotalPreorder :
    ¬IsTotalPreorder .double ∧ ¬IsTotalPreorder .date := by
  constructor
  · intro preorder
    have transitive := (preorder (.int 9007199254740993)
      (.float ⟨0x4340000000000000⟩)
      (.int 9007199254740992) rfl rfl rfl).2
    exact absurd (transitive (by decide) (by decide)).1 (by decide)
  · intro preorder
    have transitive :=
      (preorder (.date ⟨0, 500000⟩) (.int 0) (.date ⟨0, 0⟩) rfl rfl rfl).2
    exact absurd (transitive (by decide) (by decide)).1 (by decide)

end Value
end SearchQuery
