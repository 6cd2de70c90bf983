import SearchQuery.Proofs.PatternMerges

/-!
# What merges of leaves come to

A merge of two leaves gives one leaf or two side by side, and each of them is
one of the merged leaves with other values or bounds. It fails because weights
differ, because a set of identifiers meets a condition on a field, because a
pattern has no meaning, or under intersection because the leaves exclude each
other.
-/

namespace SearchQuery

/-- Two nodes side by side, as an operation leaves them. -/
def MergeOperation.apart : MergeOperation → Node → Node → Node
  | .union => .either
  | .inter => .both

namespace ValueSet

/-- Arranged values are some where the given ones are. -/
theorem arrange_ne_nil
    (scope : Scope)
    {values : List Value}
    (nonempty : values ≠ []) :
    arrange scope values ≠ [] := by
  have sorted : (descending scope values).reverse ≠ [] := by
    intro empty
    exact nonempty
      (List.perm_nil.mp (empty ▸ descending_reverse_perm scope values).symm)
  unfold arrange
  cases arranged : (descending scope values).reverse with
  | nil => exact absurd arranged sorted
  | cons value rest => exact List.cons_ne_nil _ _

/-- The smallest leaf for some values is a term or a set of at least two
values. -/
theorem leaf_of_values_ne_nil {set : ValueSet} (nonempty : set.values ≠ []) :
    (∃ value, set.leaf = .term ⟨set.toScope, value⟩) ∨
      set.leaf = .valueSet set ∧ 2 ≤ set.values.length := by
  unfold leaf
  split
  · rename_i empty
    exact absurd empty nonempty
  · exact .inl ⟨_, rfl⟩
  · rename_i notEmpty notSingle
    refine .inr ⟨rfl, ?_⟩
    match given : set.values with
    | [] => exact absurd given notEmpty
    | [value] => exact absurd given (notSingle value)
    | _ :: _ :: _ => simp

end ValueSet

namespace Range

variable {range wider : Range} {value : Value}

/-- Widening a bound leaves the scope of a range. -/
theorem toScope_of_widenTo? (widened : range.widenTo? value = some wider) :
    wider.toScope = range.toScope := by
  unfold widenTo? at widened
  dsimp only at widened
  split at widened
  · split at widened
    · cases widened
      rfl
    · split at widened
      · split at widened
        · cases widened
          rfl
        · cases widened
      · cases widened
  · split at widened
    · cases widened
      rfl
    · cases widened
  · cases widened

/-- Taking in a value leaves the scope of a range. -/
theorem toScope_of_takeIn? (taken : range.takeIn? value = some wider) :
    wider.toScope = range.toScope := by
  unfold takeIn? at taken
  split at taken
  · cases taken
    rfl
  · exact toScope_of_widenTo? taken

/-- The values that a range does not take in are among the given ones. -/
theorem takeInAll_sublist (range : Range) (values : List Value) :
    (range.takeInAll values).2.Sublist values := by
  induction values generalizing range with
  | nil => exact .slnil
  | cons value rest hypothesis =>
      rw [takeInAll]
      split
      · exact (hypothesis _).cons value
      · exact (hypothesis range).cons_cons value

/-- A range that takes in none of some values stays as it is. -/
theorem takeInAll_eq_self
    {values : List Value}
    (none : (range.takeInAll values).2.length = values.length) :
    (range.takeInAll values).1 = range := by
  induction values with
  | nil => rfl
  | cons value rest hypothesis =>
      rw [takeInAll] at none ⊢
      split at none
      · rename_i wider taken
        have short := (takeInAll_sublist wider rest).length_le
        rw [none, List.length_cons] at short
        omega
      · exact hypothesis (Nat.succ.inj none)

/-- Taking in values leaves the scope of a range. -/
theorem toScope_takeInAll (range : Range) (values : List Value) :
    (range.takeInAll values).1.toScope = range.toScope := by
  induction values generalizing range with
  | nil => rfl
  | cons value rest hypothesis =>
      rw [takeInAll]
      split
      · rename_i wider taken
        rw [hypothesis, toScope_of_takeIn? taken]
      · exact hypothesis range

end Range

namespace Leaf

/-- The leaf lists identifiers. -/
def isIds : Leaf → Bool
  | .ids _ => true
  | _ => false

/-- The leaf takes in whatever it is united with, and gives way to whatever it
meets. -/
def isBroad : Leaf → Bool
  | .presence _ | .everything _ => true
  | _ => false

/-- What a leaf asks for in words, without its weight and its scoring. -/
def wording? : Leaf → Option Leaf
  | .fullText content => some (Leaf.fullText content).bare
  | .phrase content => some (Leaf.phrase content).bare
  | .queryText content => some (Leaf.queryText content).bare
  | _ => none

/-- Leaves that ask for the same do so in the same words, if in words. -/
theorem wording?_eq_of_sameCondition {a b : Leaf}
    (alike : a.sameCondition b = true) :
    a.wording? = b.wording? := by
  cases a <;> cases b <;> try cases alike
  case fullText.fullText a b =>
    have bares : (Leaf.fullText a).bare.bare = (Leaf.fullText b).bare.bare :=
      bare_eq_of_same alike trivial
    exact congrArg some bares
  case phrase.phrase a b =>
    have bares : (Leaf.phrase a).bare.bare = (Leaf.phrase b).bare.bare :=
      bare_eq_of_same alike trivial
    exact congrArg some bares
  case queryText.queryText a b =>
    simp only [sameCondition, same, bare, QueryText.same, Bool.and_eq_true,
      beq_iff_eq] at alike
    rw [wording?, wording?, bare, bare, alike.1.1, alike.1.2]
  all_goals rfl

/-- The leaf is no set of values without a value. -/
def IsFilled (leaf : Leaf) : Prop :=
  ∀ set, leaf = .valueSet set → set.values ≠ []

/-- A leaf is recast: it keeps its kind of condition and its scope, with other
values or bounds. -/
inductive Recasts : Leaf → Leaf → Prop
  | self (leaf : Leaf) : Recasts leaf leaf
  | values {leaf : Leaf} {scope : Scope} {given values : List Value}
      (exact : leaf.exactValues? = some (scope, given))
      (nonempty : given ≠ [] → values ≠ []) :
      Recasts leaf (ValueSet.ofValues scope values).leaf
  | smallest (set : ValueSet) : Recasts (.valueSet set) set.leaf
  | range {given range : Range} (sameScope : range.toScope = given.toScope) :
      Recasts (.range given) (.range range)
  | ids {given : IdSet} {values : List String} (nonempty : given.values ≠ [] →
    values ≠ []) :
      Recasts (.ids given) (.ids (.ofValues given.boost values))

/-- What a leaf has in common with the leaves that are recast from it. -/
structure IsAkin (leaf result : Leaf) : Prop where
  filled : result.IsFilled
  isNothing : result.isNothing = leaf.isNothing
  scope : result.scope? = leaf.scope?
  key : result.key = leaf.key
  boost : result.boost = leaf.boost
  isIds : result.isIds = leaf.isIds
  isBroad : result.isBroad = leaf.isBroad
  wording : result.wording? = leaf.wording?

theorem isFilled_of_ne {leaf : Leaf} (differs : ∀ set, leaf ≠ .valueSet set) :
    leaf.IsFilled :=
  fun set isSet => absurd isSet (differs set)

/-- A filled exact leaf has a value. -/
theorem IsFilled.values_ne_nil
    {leaf : Leaf}
    {scope : Scope}
    {given : List Value}
    (filled : leaf.IsFilled)
    (exact : leaf.exactValues? = some (scope, given)) :
    given ≠ [] := by
  cases leaf with
  | term content =>
      cases exact
      exact List.cons_ne_nil _ _
  | valueSet content =>
      cases exact
      exact filled content rfl
  | _ => cases exact

/-- An exact leaf has a scope, and is none of the leaves without one. -/
theorem scope?_of_exactValues?
    {leaf : Leaf}
    {scope : Scope}
    {given : List Value}
    (exact : leaf.exactValues? = some (scope, given)) :
    leaf.scope? = some scope ∧ leaf.isNothing = false ∧ leaf.isIds = false ∧
      leaf.isBroad = false ∧ leaf.key = scope.field ∧
        leaf.boost = scope.boost := by
  cases leaf <;> cases exact <;> exact ⟨rfl, rfl, rfl, rfl, rfl, rfl⟩

/-- An exact leaf does not ask in words. -/
theorem wording?_of_exactValues?
    {leaf : Leaf}
    {scope : Scope}
    {given : List Value}
    (exact : leaf.exactValues? = some (scope, given)) :
    leaf.wording? = none := by
  cases leaf <;> cases exact <;> rfl

/-- The smallest leaf for some values is akin to exact leaves with the same
scope. -/
theorem isAkin_leaf
    {leaf : Leaf}
    {set : ValueSet}
    {scope : Scope}
    {given : List Value}
    (exact : leaf.exactValues? = some (scope, given))
    (sameScope : set.toScope = scope)
    (nonempty : set.values ≠ []) :
    leaf.IsAkin set.leaf := by
  subst sameScope
  obtain ⟨isScope, isNothing, isIds, isBroad, isKey, isBoost⟩ :=
    scope?_of_exactValues? exact
  have wording := wording?_of_exactValues? exact
  rcases ValueSet.leaf_of_values_ne_nil nonempty with
    ⟨value, isTerm⟩ | ⟨isSet, _⟩
  · rw [isTerm]
    exact ⟨isFilled_of_ne fun _ => Leaf.noConfusion, isNothing.symm,
      isScope.symm, isKey.symm, isBoost.symm, isIds.symm, isBroad.symm,
      wording.symm⟩
  · rw [isSet]
    refine ⟨?_, isNothing.symm, isScope.symm, isKey.symm, isBoost.symm,
      isIds.symm, isBroad.symm, wording.symm⟩
    rintro _ ⟨rfl⟩
    exact nonempty

/-- A leaf that is recast is akin to what it was. -/
theorem Recasts.isAkin
    {leaf result : Leaf}
    (recast : leaf.Recasts result)
    (filled : leaf.IsFilled) :
    leaf.IsAkin result := by
  cases recast with
  | self => exact ⟨filled, rfl, rfl, rfl, rfl, rfl, rfl, rfl⟩
  | @values _ scope given values exact nonempty =>
      have isThere : (ValueSet.ofValues scope values).values ≠ [] :=
        ValueSet.arrange_ne_nil scope (nonempty (filled.values_ne_nil exact))
      exact isAkin_leaf exact rfl isThere
  | smallest set => exact isAkin_leaf rfl rfl (filled set rfl)
  | @range given range sameScope =>
      refine ⟨isFilled_of_ne fun _ => Leaf.noConfusion, rfl,
        congrArg some sameScope, congrArg Scope.field sameScope,
        congrArg Scope.boost sameScope, rfl, rfl, rfl⟩
  | ids nonempty =>
      exact ⟨isFilled_of_ne fun _ => Leaf.noConfusion, rfl, rfl, rfl, rfl,
        rfl, rfl, rfl⟩

/-- What can come of a merge of two leaves. -/
inductive Outcome (operation : MergeOperation) (a b : Leaf) :
    Except Error Node → Prop
  | single {result : Leaf} (recast : a.Recasts result ∨ b.Recasts result) :
      Outcome operation a b (.ok (.leaf result))
  | apart {left right : Leaf} (recastLeft : a.Recasts left ∨ b.Recasts left)
      (recastRight : a.Recasts right ∨ b.Recasts right)
      (parts : (left = a ∧ right = b) ∨ (left = b ∧ right = a) ∨
        operation = .union ∧ a.isIds = b.isIds ∧
          (a.boost.equals b.boost = true ∨ b.boost.equals a.boost = true)) :
      Outcome operation a b (.ok (operation.apart (.leaf left) (.leaf right)))
  | weights {field : String} {left right : Binary64}
    (sameWording : a.wording? = b.wording?)
      (differ : a.boost.equals b.boost = false ∨
        b.boost.equals a.boost = false) :
      Outcome operation a b (.error (.boostConflict field left right))
  | kinds {left right : String} (unlike : a.isIds ≠ b.isIds) :
      Outcome operation a b (.error (.typeMismatch left right))
  | pattern {pattern : Pattern} {error : Error}
      (given : a = .pattern pattern ∨ b = .pattern pattern)
      (refused : pattern.matcher.predicate = .error error) :
      Outcome operation a b (.error error)
  | exclusion {error : Error} (isInter : operation = .inter)
      (isExclusion : error.isExclusion = true) :
      Outcome operation a b (.error error)

namespace Outcome

variable {operation : MergeOperation} {a b : Leaf} {node : Node}
  {outcome : Except Error Node}

/-- What can come of a merge does not depend on the side of the leaves. -/
theorem symm (given : Outcome operation a b outcome) :
    Outcome operation b a outcome := by
  cases given with
  | single recast => exact .single recast.symm
  | apart recastLeft recastRight parts =>
      refine .apart recastLeft.symm recastRight.symm ?_
      rcases parts with first | second | ⟨isUnion, kinds, equal⟩
      · exact .inr (.inl first)
      · exact .inl second
      · exact .inr (.inr ⟨isUnion, kinds.symm, equal.symm⟩)
  | weights sameWording differ => exact .weights sameWording.symm differ.symm
  | kinds unlike => exact .kinds unlike.symm
  | pattern given refused => exact .pattern given.symm refused
  | exclusion isInter isExclusion => exact .exclusion isInter isExclusion

/-- A merge may ask for equal weights, on which what comes of it may depend. -/
theorem agreed_of_equal
    {field : String}
    (given : a.boost.equals b.boost = true → Outcome operation a b (.ok node))
    (sameWording : a.wording? = b.wording?) :
    Outcome operation a b (SearchQuery.agreed field a.boost b.boost node) := by
  unfold SearchQuery.agreed agreeOnBoost
  split
  · rename_i equal
    exact given equal
  · rename_i differ
    exact .weights sameWording (.inl (Bool.eq_false_iff.mpr differ))

theorem agreed
    {field : String}
    (given : Outcome operation a b (.ok node))
    (sameWording : a.wording? = b.wording?) :
    Outcome operation a b (SearchQuery.agreed field a.boost b.boost node) :=
  agreed_of_equal (fun _ => given) sameWording

theorem left : Outcome operation a b (.ok (.leaf a)) := .single (.inl (.self a))

theorem right :
    Outcome operation a b (.ok (.leaf b)) := .single (.inr (.self b))

theorem both :
    Outcome operation a b (.ok (operation.apart (.leaf a) (.leaf b))) :=
  .apart (.inl (.self a)) (.inr (.self b)) (.inl ⟨rfl, rfl⟩)

end Outcome
end Leaf

open Leaf (Outcome)

namespace Term

variable (a b : Term)

theorem outcome_union : Outcome .union (.term a) (.term b) (a.union b) := by
  refine Outcome.agreed ?_ rfl
  split
  · exact .left
  · exact .single (.inl (.values rfl fun _ => List.cons_ne_nil _ _))

theorem outcome_inter : Outcome .inter (.term a) (.term b) (a.inter b) := by
  unfold Term.inter
  split
  · exact Outcome.agreed .left rfl
  · split
    · exact .both
    · exact .exclusion rfl rfl

end Term

namespace ValueSet

variable (a b set : ValueSet) (term : Term)

theorem outcome_union :
    Outcome .union (.valueSet a) (.valueSet b) (a.union b) := by
  refine Outcome.agreed (.single (.inl (.values rfl ?_))) rfl
  exact fun nonempty => List.append_ne_nil_of_left_ne_nil nonempty b.values

/-- What comes of the union of a value set and a term. -/
theorem outcome_unionTerm :
    Outcome .union (.valueSet set) (.term term) (set.unionTerm term) := by
  refine Outcome.agreed ?_ rfl
  split
  · exact .single (.inl (.smallest set))
  · exact .single
      (.inl (.values rfl fun _ => List.append_ne_nil_of_right_ne_nil _
      (List.cons_ne_nil _ _)))

/-- What comes of the intersection of value sets. -/
theorem outcome_inter :
    Outcome .inter (.valueSet a) (.valueSet b) (a.inter b) := by
  unfold ValueSet.inter
  split
  · split
    · exact Outcome.agreed (.single (.inl (.smallest a))) rfl
    · split
      · exact Outcome.agreed (.single (.inr (.smallest b))) rfl
      · exact .both
  · dsimp only
    split
    · exact .exclusion rfl rfl
    · rename_i nonempty
      exact Outcome.agreed (.single (.inl (.values rfl fun _ =>
        mt List.isEmpty_iff.mpr nonempty))) rfl

/-- What comes of the intersection of a value set and a term. -/
theorem outcome_interTerm :
    Outcome .inter (.valueSet set) (.term term) (set.interTerm term) := by
  unfold interTerm
  split
  · exact Outcome.agreed .right rfl
  · split
    · exact .both
    · exact .exclusion rfl rfl

end ValueSet

namespace IdSet

variable (a b : IdSet)

theorem outcome_union : Outcome .union (.ids a) (.ids b) (a.union b) := by
  refine Outcome.agreed (.single (.inl (.ids ?_))) rfl
  exact fun nonempty => List.append_ne_nil_of_left_ne_nil nonempty b.values

/-- What comes of the intersection of sets of identifiers. -/
theorem outcome_inter : Outcome .inter (.ids a) (.ids b) (a.inter b) := by
  unfold IdSet.inter
  dsimp only
  split
  · exact .exclusion rfl rfl
  · rename_i nonempty
    exact Outcome.agreed
      (.single (.inl (.ids fun _ => mt List.isEmpty_iff.mpr nonempty))) rfl

end IdSet

namespace Range

variable (a b range : Range) (term : Term) (set : ValueSet)

theorem outcome_union : Outcome .union (.range a) (.range b) (a.union b) := by
  have sameScope : (a.outer b).toScope = a.toScope := rfl
  unfold Range.union
  split
  · exact Outcome.agreed (.single (.inl (.range sameScope))) rfl
  · exact .both

/-- What comes of the intersection of ranges. -/
theorem outcome_inter : Outcome .inter (.range a) (.range b) (a.inter b) := by
  have sameScope : (a.inner b).toScope = a.toScope := rfl
  unfold Range.inter
  dsimp only
  split
  · exact .both
  · split
    · split
      · exact Outcome.agreed .left rfl
      · split
        · exact Outcome.agreed .right rfl
        · exact .both
    · split
      · exact Outcome.agreed (.single (.inl (.range sameScope))) rfl
      · exact .exclusion rfl rfl

/-- What comes of the union of a range and a term. -/
theorem outcome_unionTerm :
    Outcome .union (.range range) (.term term) (range.unionTerm term) := by
  unfold unionTerm
  split
  · rename_i taken
    exact Outcome.agreed
      (.single (.inl (.range (toScope_of_takeIn? taken)))) rfl
  · exact .both

theorem outcome_interTerm :
    Outcome .inter (.range range) (.term term) (range.interTerm term) := by
  unfold interTerm
  split
  · exact Outcome.agreed .right rfl
  · exact .both

/-- What comes of the union of a range and a value set. -/
theorem outcome_unionValues :
    Outcome .union (.range range) (.valueSet set) (range.unionValues set) := by
  have sameScope := toScope_takeInAll range set.values
  have unchanged := @takeInAll_eq_self range set.values
  unfold unionValues
  generalize range.takeInAll set.values = taken at sameScope unchanged
  obtain ⟨wider, outside⟩ := taken
  dsimp only at sameScope unchanged ⊢
  split
  · rename_i none
    rw [unchanged none]
    exact .both
  · refine Outcome.agreed_of_equal (fun equal => ?_) rfl
    split
    · exact .single (.inl (.range sameScope))
    · rename_i something
      have isThere : outside ≠ [] := by
        rintro rfl
        exact something rfl
      have exact : (Leaf.valueSet set).exactValues? =
          some (set.toScope, set.values) := rfl
      exact .apart (.inl (.range sameScope))
        (.inr (.values exact fun _ => isThere))
        (.inr (.inr ⟨rfl, rfl, .inl equal⟩))

/-- What comes of the intersection of a range and a value set. -/
theorem outcome_interValues :
    Outcome .inter (.range range) (.valueSet set) (range.interValues set) := by
  have recast : ∀ values : List Value, (set.values ≠ [] → values ≠ []) →
      Outcome .inter (.range range) (.valueSet set) (.ok (.leaf
        (ValueSet.ofValues set.toScope values).leaf)) :=
    fun values nonempty => .single (.inr (.values rfl nonempty))
  unfold interValues
  dsimp only
  cases range.type.isArray with
  | true =>
      rw [if_pos rfl]
      split
      · rename_i all
        have complete := List.filter_eq_self.mpr
          (List.length_filter_eq_length_iff.mp (beq_iff_eq.mp all))
        refine Outcome.agreed (recast _ ?_) rfl
        rw [complete]
        exact id
      · exact .both
  | false =>
      rw [if_neg Bool.false_ne_true]
      split
      · rename_i some
        exact Outcome.agreed (recast _ fun _ => by simpa using some) rfl
      · exact .both

end Range

namespace Pattern

variable (pattern : Pattern) {leaf : Leaf} {scope : Scope} {values : List Value}
  (exact : leaf.exactValues? = some (scope, values))
include exact

/-- What comes of the union of a pattern and an exact leaf. -/
theorem outcome_union :
    Outcome .union (.pattern pattern) leaf (pattern.union leaf) := by
  have sameWording : (Leaf.pattern pattern).wording? = leaf.wording? :=
    (Leaf.wording?_of_exactValues? exact).symm
  rw [Pattern.union, split?_eq exact]
  split
  · cases meaning : pattern.matcher.predicate with
    | error error => exact .pattern (.inl rfl) meaning
    | ok holds =>
        change Outcome _ _ _ (pattern.unionSplit leaf _)
        unfold unionSplit
        dsimp only
        split
        · exact .both
        · refine Outcome.agreed_of_equal (fun equal => ?_) sameWording
          split
          · exact .left
          · rename_i some
            refine .apart (.inl (.self _)) (.inr (.values exact fun _ => ?_))
              (.inr
                (.inr ⟨rfl, (Leaf.scope?_of_exactValues? exact).2.2.1.symm,
                  .inl equal⟩))
            exact mt List.isEmpty_iff.mpr some
  · exact .both

/-- What comes of the intersection of a pattern and an exact leaf. -/
theorem outcome_inter :
    Outcome .inter (.pattern pattern) leaf (pattern.inter leaf) := by
  have sameWording : (Leaf.pattern pattern).wording? = leaf.wording? :=
    (Leaf.wording?_of_exactValues? exact).symm
  have recast : ∀ others : List Value, (values ≠ [] → others ≠ []) →
      Outcome .inter (.pattern pattern) leaf
        (.ok (.leaf (ValueSet.ofValues scope others).leaf)) :=
    fun others nonempty => .single (.inr (.values exact nonempty))
  rw [Pattern.inter, split?_eq exact]
  split
  · cases meaning : pattern.matcher.predicate with
    | error error => exact .pattern (.inl rfl) meaning
    | ok holds =>
        change Outcome _ _ _ (pattern.interSplit leaf _)
        unfold interSplit
        dsimp only
        cases pattern.type.isArray with
        | true =>
            rw [if_pos rfl]
            split
            · rename_i noneLeft
              have complete : values.filter (holdsOf holds) = values := by
                rw [List.filter_eq_self]
                simpa using noneLeft
              refine Outcome.agreed (recast _ ?_) sameWording
              rw [complete]
              exact id
            · exact .both
        | false =>
            rw [if_neg Bool.false_ne_true]
            split
            · rename_i some
              exact Outcome.agreed (recast _ fun _ => by simpa using some)
                sameWording
            · exact .both
  · exact .both

end Pattern

namespace Leaf

/-- A set of identifiers does not merge with a condition of another kind. -/
theorem outcome_ids
    (operation : MergeOperation)
    (set : IdSet)
    {other : Leaf}
    (notIds : ∀ content, other = .ids content → False) :
    Outcome operation (.ids set) other
      (.error (.typeMismatch "ids" other.kind)) := by
  cases other with
  | ids content => exact absurd rfl (notIds content)
  | _ => exact .kinds Bool.noConfusion

section Ways

/-- The leaf asks for nothing or for everything. -/
def isTrivial : Leaf → Bool
  | .nothing | .everything _ => true
  | _ => false

/-- A leaf that asks neither for nothing nor for everything is not trivial. -/
theorem isTrivial_eq_false
    {leaf : Leaf}
    (notNothing : leaf ≠ .nothing)
    (notEverything : ∀ boost, leaf ≠ .everything boost) :
    leaf.isTrivial = false := by
  cases leaf with
  | nothing => exact absurd rfl notNothing
  | everything boost => exact absurd rfl (notEverything boost)
  | _ => rfl

/-- The merge of leaves with one key. -/
def mergeAtKey : MergeOperation → Leaf → Leaf → Except Error Node
  | .union => unionAtKey
  | .inter => interAtKey

variable {operation : MergeOperation} {a b : Leaf}

/-- A trivial leaf merges with any other to one of the two. -/
theorem merge_eq_of_isTrivial
    (someTrivial : (a.isTrivial || b.isTrivial) = true) :
    merge operation a b = .ok (.leaf a) ∨ merge operation a b =
      .ok (.leaf b) := by
  cases operation with
  | union =>
      change a.union b = _ ∨ a.union b = _
      unfold Leaf.union
      split
      · exact .inl rfl
      · split
        · exact .inr rfl
        · exact .inl rfl
        · exact .inl rfl
        · exact .inr rfl
        · rename_i notNothingA notEverythingA notNothingB notEverythingB
          rw [isTrivial_eq_false notNothingA notEverythingA,
            isTrivial_eq_false notNothingB notEverythingB] at someTrivial
          cases someTrivial
  | inter =>
      change a.inter b = _ ∨ a.inter b = _
      unfold Leaf.inter
      split
      · exact .inl rfl
      · split
        · exact .inr rfl
        · exact .inl rfl
        · exact .inr rfl
        · exact .inl rfl
        · rename_i notNothingA notEverythingA notNothingB notEverythingB
          rw [isTrivial_eq_false notNothingA notEverythingA,
            isTrivial_eq_false notNothingB notEverythingB] at someTrivial
          cases someTrivial

/-- Different leaves that are not trivial merge by the rule of their key, or
stay side by side. -/
theorem merge_eq_of_differ
    (operation : MergeOperation)
    (differ : a.same b = false)
    (notTrivial : (a.isTrivial || b.isTrivial) = false) :
    merge operation a b = if a.key = b.key then mergeAtKey operation a b
      else .ok (operation.apart (.leaf a) (.leaf b)) := by
  obtain ⟨notTrivialA, notTrivialB⟩ := Bool.or_eq_false_iff.mp notTrivial
  cases operation with
  | union =>
      change a.union b = _
      unfold Leaf.union
      rw [if_neg (Bool.eq_false_iff.mp differ)]
      split
      · cases notTrivialA
      · cases notTrivialB
      · cases notTrivialA
      · cases notTrivialB
      · rfl
  | inter =>
      change a.inter b = _
      unfold Leaf.inter
      rw [if_neg (Bool.eq_false_iff.mp differ)]
      split
      · cases notTrivialA
      · cases notTrivialB
      · cases notTrivialA
      · cases notTrivialB
      · rfl

/-- How two leaves merge: one of them stands for both if they are the same or
one is trivial, and others merge by the rule of their key if they have one, or
stay side by side. -/
inductive Merging (operation : MergeOperation) (a b : Leaf) : Prop
  | left (merges : merge operation a b = .ok (.leaf a))
      (stands : a.same b = true ∨ (a.isTrivial || b.isTrivial) = true) :
        Merging operation a b
  | right (merges : merge operation a b = .ok (.leaf b))
      (stands : (a.isTrivial || b.isTrivial) = true) : Merging operation a b
  | atKey (merges : merge operation a b = mergeAtKey operation a b)
    (sameKey : a.key = b.key)
      (differ : a.same b = false)
      (notTrivial : (a.isTrivial || b.isTrivial) = false) :
      Merging operation a b
  | apart (merges : merge operation a b =
    .ok (operation.apart (.leaf a) (.leaf b)))
      (unlike : a.key ≠ b.key) (differ : a.same b = false)
      (notTrivial : (a.isTrivial || b.isTrivial) = false) :
        Merging operation a b

/-- Any two leaves merge in one of these ways. -/
theorem merging (operation : MergeOperation) (a b : Leaf) :
    Merging operation a b := by
  cases differ : a.same b with
  | true =>
      refine .left ?_ (.inl differ)
      cases operation with
      | union => exact if_pos differ
      | inter => exact if_pos differ
  | false =>
      cases notTrivial : a.isTrivial || b.isTrivial with
      | true =>
          rcases merge_eq_of_isTrivial notTrivial with merges | merges
          · exact .left merges (.inr notTrivial)
          · exact .right merges notTrivial
      | false =>
          have merges := merge_eq_of_differ operation differ notTrivial
          by_cases sameKey : a.key = b.key
          · rw [if_pos sameKey] at merges
            exact .atKey merges sameKey differ notTrivial
          · rw [if_neg sameKey] at merges
            exact .apart merges sameKey differ notTrivial

end Ways

variable (operation : MergeOperation) (a b : Leaf)

theorem outcome_mergeSame :
    Outcome operation a b (mergeSame operation.apart a b) := by
  unfold mergeSame
  split
  · rename_i alike
    exact Outcome.agreed .left (wording?_eq_of_sameCondition alike)
  · exact .both

/-- What comes of the union of leaves with one key. -/
theorem outcome_unionAtKey : Outcome .union a b (unionAtKey a b) := by
  unfold unionAtKey
  split
  · exact .left
  · exact .right
  · exact IdSet.outcome_union _ _
  · rename_i notIds
    exact outcome_ids _ _ notIds
  · rename_i notIds
    exact (outcome_ids _ _ notIds).symm
  · exact Term.outcome_union _ _
  · exact ValueSet.outcome_unionTerm _ _
  · exact (ValueSet.outcome_unionTerm _ _).symm
  · exact ValueSet.outcome_union _ _
  · exact Range.outcome_union _ _
  · exact Range.outcome_unionTerm _ _
  · exact (Range.outcome_unionTerm _ _).symm
  · exact Range.outcome_unionValues _ _
  · exact (Range.outcome_unionValues _ _).symm
  · exact Pattern.outcome_union _ rfl
  · exact Pattern.outcome_union _ rfl
  · exact (Pattern.outcome_union _ rfl).symm
  · exact (Pattern.outcome_union _ rfl).symm
  · exact outcome_mergeSame .union _ _

/-- What comes of the intersection of leaves with one key. -/
theorem outcome_interAtKey : Outcome .inter a b (interAtKey a b) := by
  unfold interAtKey
  split
  · exact .right
  · exact .left
  · exact IdSet.outcome_inter _ _
  · rename_i notIds
    exact outcome_ids _ _ notIds
  · rename_i notIds
    exact (outcome_ids _ _ notIds).symm
  · exact Term.outcome_inter _ _
  · exact ValueSet.outcome_interTerm _ _
  · exact (ValueSet.outcome_interTerm _ _).symm
  · exact ValueSet.outcome_inter _ _
  · exact Range.outcome_inter _ _
  · exact Range.outcome_interTerm _ _
  · exact (Range.outcome_interTerm _ _).symm
  · exact Range.outcome_interValues _ _
  · exact (Range.outcome_interValues _ _).symm
  · exact Pattern.outcome_inter _ rfl
  · exact Pattern.outcome_inter _ rfl
  · exact (Pattern.outcome_inter _ rfl).symm
  · exact (Pattern.outcome_inter _ rfl).symm
  · exact outcome_mergeSame .inter _ _

theorem outcome_mergeAtKey :
    Outcome operation a b (mergeAtKey operation a b) := by
  cases operation with
  | union => exact outcome_unionAtKey a b
  | inter => exact outcome_interAtKey a b

theorem outcome_merge : Outcome operation a b (merge operation a b) := by
  cases merging operation a b with
  | left merges => exact merges ▸ .left
  | right merges => exact merges ▸ .right
  | atKey merges => exact merges ▸ outcome_mergeAtKey operation a b
  | apart merges => exact merges ▸ .both

/-- Only leaves with one key fail to merge. -/
theorem key_eq_of_merge_eq_error
    {operation : MergeOperation}
    {a b : Leaf}
    {error : Error}
    (failure : merge operation a b = .error error) :
    a.key = b.key := by
  cases merging operation a b with
  | left merges => cases merges.symm.trans failure
  | right merges => cases merges.symm.trans failure
  | atKey merges sameKey => exact sameKey
  | apart merges => cases merges.symm.trans failure

/-- What can come of the complement of a leaf. -/
inductive TurnsInto (leaf : Leaf) : Node → Prop
  | single {result : Leaf} (recast : leaf.Recasts result) :
    TurnsInto leaf (.leaf result)
  | either {left right : Leaf} (recastLeft : leaf.Recasts left)
    (recastRight : leaf.Recasts right) :
      TurnsInto leaf (.either (.leaf left) (.leaf right))
  | negation {leaves : List Leaf} (nonempty : leaf.IsFilled → leaves ≠ [])
      (turned : (∀ result ∈ leaves, leaf.Recasts result) ∨
        ∃ range, leaf = .range range ∧
          leaves = [.presence ⟨range.field, range.filter⟩]) :
      TurnsInto leaf
        (.clauses (Clauses.negation.addAll .mustNot (leaves.map .leaf)))

theorem TurnsInto.negated (leaf : Leaf) :
    leaf.TurnsInto (.negated (.leaf leaf)) := by
  have recasts : ∀ result ∈ [leaf], leaf.Recasts result :=
    List.forall_mem_singleton.mpr (.self leaf)
  exact .negation (fun _ => List.cons_ne_nil leaf []) (.inl recasts)

/-- A range turns into the ranges beside it, into a missing field, or into its
negation. -/
theorem turnsInto_complement_range (range : Range) :
    (Leaf.range range).TurnsInto range.complement := by
  unfold Range.complement
  split
  · exact .negated _
  · dsimp only
    split
    · exact .either (.range rfl) (.range rfl)
    · exact .single (.range rfl)
    · exact .single (.range rfl)
    · exact @TurnsInto.negation _ [.presence ⟨range.field, range.filter⟩]
        (fun _ => List.cons_ne_nil _ []) (.inr ⟨range, rfl, rfl⟩)

/-- A value set turns into a negation of its values. -/
theorem turnsInto_complement_valueSet (set : ValueSet) :
    (Leaf.valueSet set).TurnsInto set.complement := by
  have leaves : set.complement = .clauses (Clauses.negation.addAll .mustNot
      ((set.values.map fun value => Leaf.term ⟨set.toScope, value⟩).map
        .leaf)) := by
    rw [List.map_map]
    rfl
  rw [leaves]
  refine .negation (fun filled => ?_) (.inl fun result isTerm => ?_)
  · rw [ne_eq, List.map_eq_nil_iff]
    exact filled set rfl
  · obtain ⟨value, _, rfl⟩ := List.mem_map.mp isTerm
    exact .values rfl fun _ => List.cons_ne_nil value []

/-- What comes of the complement of a leaf. -/
theorem turnsInto_of_complement
    {leaf : Leaf}
    {node : Node}
    (success : leaf.complement = .ok node) :
    leaf.TurnsInto node := by
  cases leaf <;> cases success
  case range content => exact turnsInto_complement_range content
  case valueSet content => exact turnsInto_complement_valueSet content
  all_goals exact .negated _

end Leaf
end SearchQuery
