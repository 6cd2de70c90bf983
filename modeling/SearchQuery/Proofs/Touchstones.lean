import SearchQuery.Proofs.Grouping
import SearchQuery.Proofs.RangeLines

/-!
# Touchstones

What two leaves must have in common so that their merge does not fail is a
touchstone: a weight, whether they list identifiers, and under intersection a
document that both hold for or a range that lies within both. A leaf that comes
of a merge passes a touchstone where both merged leaves do.
-/

namespace SearchQuery

/-- A document with one value in one field. -/
def StoredDocument.ofValue (field : String) (value : Value) : StoredDocument :=
  ⟨"", fun other => if other = field then [value] else []⟩

/-- A place where leaves are tried: a document, or a range that may leave no
place for a value. -/
inductive Spot
  | document (engine : Engine) (document : StoredDocument)
  | within (inner : Range)

/-- What leaves are tried with. -/
structure Touchstone where
  weight : Binary64
  isIds : Bool
  spot : Spot

instance : Inhabited Spot := ⟨.within (.unbounded .ofSize)⟩

instance : Inhabited Touchstone := ⟨⟨.one, false, default⟩⟩

/-- A range that leaves a place between its bounds lies within another. -/
structure Range.Covers (range inner : Range) : Prop where
  typed : inner.fieldType = range.fieldType
  isOf : inner.IsOf
  nonempty : inner.isEmpty = false
  contains : range.contains inner = true

namespace Leaf

/-- The leaf leaves room for a value in a range, of which nothing else is known.
The values of a field that holds one value leave none, and a range on such a
field does if it covers the range. -/
def Spans (inner : Range) : Leaf → Prop
  | .term content => content.type.isArray = true
  | .valueSet content => content.type.isArray = true
  | .range content => content.type.isArray = true ∨ content.Covers inner
  | .ids _ => False
  | _ => True

/-- The leaf takes in a spot. -/
def Reaches (types : String → ValueType) (leaf : Leaf) : Spot → Prop
  | .document engine document =>
      document.Fits types ∧ leaf.holds engine document = true
  | .within inner => leaf.Spans inner

/-- The leaf passes a touchstone. Under intersection a leaf that gives way to
others passes any. -/
def Passes (types : String → ValueType) (operation : MergeOperation)
    (stone : Touchstone)
    (leaf : Leaf) : Prop :=
  (operation = .inter ∧ leaf.isBroad = true) ∨
    (leaf.boost.equals stone.weight = true ∧ leaf.isIds = stone.isIds ∧
      (operation = .inter → leaf.Reaches types stone.spot))

end Leaf

/-- A leaf comes of an outcome only for equal weights, and it has a property. An
exclusion comes of it only where something is excluded. -/
def Grants (left right : Binary64) (property : Leaf → Prop) (excluded : Prop) :
    Except Error Node → Prop
  | .ok (.leaf leaf) => left.equals right = true ∧ property leaf
  | .ok (.clauses _) => True
  | .error error => error.isExclusion = true → excluded

section Grants

variable {left right : Binary64} {property : Leaf → Prop} {excluded : Prop}

/-- What is given for equal weights is granted for them. -/
theorem grants_agreed
    {field : String}
    {node : Node}
    (has : ∀ leaf, node = .leaf leaf → property leaf) :
    Grants left right property excluded (agreed field left right node) := by
  unfold agreed agreeOnBoost
  split
  · rename_i equal
    cases node with
    | leaf content => exact ⟨equal, has content rfl⟩
    | clauses content => trivial
  · exact fun isExclusion => nomatch isExclusion

/-- What is granted for two weights is granted for them from the other side. -/
theorem Grants.swap
    {outcome : Except Error Node}
    (grants : Grants left right property excluded outcome) :
    Grants right left property excluded outcome := by
  rcases outcome with error | (leaf | content)
  · exact grants
  · exact ⟨(Binary64.equals_comm right left).trans grants.1, grants.2⟩
  · trivial

end Grants

section Unions

theorem Range.grants_union (a b : Range) :
    Grants a.boost b.boost (fun _ => True) True (a.union b) := by
  unfold Range.union
  split
  · exact grants_agreed fun _ _ => trivial
  · trivial

theorem Range.grants_unionTerm (range : Range) (term : Term) :
    Grants range.boost term.boost (fun _ => True) True
      (range.unionTerm term) := by
  unfold unionTerm
  split
  · exact grants_agreed fun _ _ => trivial
  · trivial

theorem Range.grants_unionValues (range : Range) (set : ValueSet) :
    Grants range.boost set.boost (fun _ => True) True
      (range.unionValues set) := by
  unfold unionValues
  dsimp only
  split
  · trivial
  · exact grants_agreed fun _ _ => trivial

theorem Pattern.grants_union
    (pattern : Pattern)
    {leaf : Leaf}
    {scope : Scope}
    {values : List Value}
    (exact : leaf.exactValues? = some (scope, values)) :
    Grants pattern.boost leaf.boost (fun _ => True) True
      (pattern.union leaf) := by
  rw [Pattern.union, split?_eq exact]
  split
  · cases pattern.matcher.predicate with
    | error error => exact fun _ => trivial
    | ok holds =>
        change Grants _ _ _ _ (pattern.unionSplit leaf _)
        unfold unionSplit
        split
        · trivial
        · exact grants_agreed fun _ _ => trivial
  · trivial

/-- A leaf comes of the union of narrow leaves with one key only for equal
weights. -/
theorem Leaf.grants_unionAtKey
    {a b : Leaf}
    (narrowA : a.isBroad = false)
    (narrowB : b.isBroad = false) :
    Grants a.boost b.boost (fun _ => True) True (unionAtKey a b) := by
  unfold unionAtKey
  split
  · cases narrowA
  · cases narrowB
  · exact grants_agreed fun _ _ => trivial
  · exact fun _ => trivial
  · exact fun _ => trivial
  · exact grants_agreed fun _ _ => trivial
  · exact grants_agreed fun _ _ => trivial
  · exact (grants_agreed fun _ _ => trivial).swap
  · exact grants_agreed fun _ _ => trivial
  · exact Range.grants_union _ _
  · exact Range.grants_unionTerm _ _
  · exact (Range.grants_unionTerm _ _).swap
  · exact Range.grants_unionValues _ _
  · exact (Range.grants_unionValues _ _).swap
  · exact Pattern.grants_union _ rfl
  · exact Pattern.grants_union _ rfl
  · exact (Pattern.grants_union _ rfl).swap
  · exact (Pattern.grants_union _ rfl).swap
  · unfold mergeSame
    split
    · exact grants_agreed fun _ _ => trivial
    · trivial

end Unions

section Intersections

variable {discipline : Discipline} {inner : Range}

/-- The outcome of an intersection is right about the room that is left in a
range: a leaf leaves room where both of the intersected ones do, and they
exclude each other only where one does not. -/
def Leaf.GrantsRoom (inner : Range) (a b : Leaf) : Except Error Node → Prop :=
  Grants a.boost b.boost
    (fun leaf => leaf.Spans inner ↔ a.Spans inner ∧ b.Spans inner)
    ¬(a.Spans inner ∧ b.Spans inner)

open Leaf (GrantsRoom)

theorem Leaf.GrantsRoom.symm
    {a b : Leaf}
    {outcome : Except Error Node}
    (grants : GrantsRoom inner a b outcome) :
    GrantsRoom inner b a outcome := by
  simpa only [GrantsRoom, and_comm] using Grants.swap grants

theorem ValueSet.spans_leaf {set : ValueSet} (nonempty : set.values ≠ []) :
    set.leaf.Spans inner ↔ set.type.isArray = true := by
  rcases leaf_of_values_ne_nil nonempty with ⟨value, isTerm⟩ | ⟨isSet, _⟩
  · rw [isTerm]
    rfl
  · rw [isSet]
    rfl

theorem Leaf.spans_iff_of_exactValues?
    {leaf : Leaf}
    {scope : Scope}
    {given : List Value}
    (exact : leaf.exactValues? = some (scope, given)) :
    leaf.Spans inner ↔ scope.type.isArray = true := by
  cases leaf <;> cases exact <;> rfl

/-- Values of an exact leaf leave the room that it does, where the other leaf
leaves room on every array field. -/
theorem Leaf.grantsRoom_values
    {a b : Leaf}
    {field : String}
    {scope : Scope}
    {given values : List Value}
    (exact : b.exactValues? = some (scope, given))
    (room : scope.type.isArray = true → a.Spans inner)
    (nonempty : values ≠ []) :
    GrantsRoom inner a b
      (agreed field a.boost b.boost
        (.leaf (ValueSet.ofValues scope values).leaf)) := by
  refine grants_agreed ?_
  rintro _ ⟨rfl⟩
  rw [ValueSet.spans_leaf (ValueSet.arrange_ne_nil _ nonempty),
    spans_iff_of_exactValues? exact]
  exact ⟨fun array => ⟨room array, array⟩, And.right⟩

theorem IdSet.grantsRoom_inter (a b : IdSet) :
    GrantsRoom inner (.ids a) (.ids b) (a.inter b) := by
  unfold IdSet.inter
  dsimp only
  split
  · exact fun _ both => both.1
  · refine grants_agreed ?_
    rintro _ ⟨⟩
    exact ⟨False.elim, And.left⟩

section Exact

variable {a b : Term} {x y : ValueSet}

theorem Term.grantsRoom_inter (sameType : b.type = a.type) :
    GrantsRoom inner (.term a) (.term b) (a.inter b) := by
  unfold Term.inter
  split
  · refine grants_agreed ?_
    rintro _ ⟨⟩
    simp [Leaf.Spans, sameType]
  · split
    · trivial
    · rename_i single
      exact fun _ both => single both.1

theorem ValueSet.grantsRoom_interTerm (sameType : b.type = x.type) :
    GrantsRoom inner (.valueSet x) (.term b) (x.interTerm b) := by
  unfold interTerm
  split
  · refine grants_agreed ?_
    rintro _ ⟨⟩
    simp [Leaf.Spans, sameType]
  · split
    · trivial
    · rename_i single
      exact fun _ both => single both.1

theorem ValueSet.grantsRoom_inter
    (sameType : y.type = x.type)
    (nonemptyX : x.values ≠ [])
    (nonemptyY : y.values ≠ []) :
    GrantsRoom inner (.valueSet x) (.valueSet y) (x.inter y) := by
  unfold ValueSet.inter
  split
  · split
    · refine grants_agreed ?_
      rintro _ ⟨rfl⟩
      rw [spans_leaf nonemptyX]
      simp [Leaf.Spans, sameType]
    · split
      · refine grants_agreed ?_
        rintro _ ⟨rfl⟩
        rw [spans_leaf nonemptyY]
        simp [Leaf.Spans, sameType]
      · trivial
  · rename_i single
    dsimp only
    split
    · exact fun _ both => single both.1
    · rename_i some
      refine grants_agreed ?_
      rintro _ ⟨rfl⟩
      rw [spans_leaf (arrange_ne_nil _ (mt List.isEmpty_iff.mpr some))]
      simp [Leaf.Spans, ofValues, sameType]

end Exact

namespace Range

variable {a b range : Range} {term : Term} {set : ValueSet}

/-- Ranges that cover one range overlap. -/
theorem Covers.overlaps
    (isA : a.IsOf)
    (isB : b.IsOf)
    (coversA : a.Covers inner)
    (coversB : b.Covers inner) :
    a.overlaps b = true := by
  obtain ⟨ranking⟩ := exists_ranking inner.fieldType
  have place :=
    (isEmpty_eq_false_iff ranking coversA.isOf rfl).mp coversA.nonempty
  have inA :=
    (contains_iff ranking isA coversA.isOf coversA.typed.symm rfl).mp
      coversA.contains
  have inB :=
    (contains_iff ranking isB coversA.isOf coversB.typed.symm rfl).mp
      coversB.contains
  rw [overlaps_iff ranking isA isB coversA.typed.symm coversB.typed.symm]
  exact ⟨(inA.1.trans_lt place).trans_le inB.2,
    (inB.1.trans_lt place).trans_le inA.2⟩

/-- The inner envelope of ranges covers what both of them cover. -/
theorem covers_inner_iff
    (isA : a.IsOf)
    (isB : b.IsOf)
    (sameType : b.fieldType = a.fieldType) :
    (a.inner b).Covers inner ↔ a.Covers inner ∧ b.Covers inner := by
  obtain ⟨ranking⟩ := exists_ranking a.fieldType
  have isOf := isOf_inner isA isB sameType
  have begins := beginning_inner ranking isA isB rfl sameType
  have ends := ending_inner ranking isA isB rfl sameType
  constructor
  · rintro ⟨typed, isInner, nonempty, within⟩
    rw [contains_iff ranking isOf isInner rfl typed, begins, ends] at within
    have inA := (contains_iff ranking isA isInner rfl typed).mpr
      ⟨(le_max_left _ _).trans within.1, within.2.trans (min_le_left _ _)⟩
    have inB := (contains_iff ranking isB isInner sameType typed).mpr
      ⟨(le_max_right _ _).trans within.1, within.2.trans (min_le_right _ _)⟩
    exact ⟨⟨typed, isInner, nonempty, inA⟩, typed.trans sameType.symm, isInner,
      nonempty, inB⟩
  · rintro ⟨⟨typed, isInner, nonempty, inA⟩, _, _, _, inB⟩
    rw [contains_iff ranking isA isInner rfl typed] at inA
    rw [contains_iff ranking isB isInner sameType typed] at inB
    refine ⟨typed, isInner, nonempty, ?_⟩
    rw [contains_iff ranking isOf isInner rfl typed, begins, ends]
    exact ⟨max_le inA.1 inB.1, le_min inA.2 inB.2⟩

theorem covers_self (isOf : range.IsOf) (nonempty : range.isEmpty = false) :
    range.Covers range := by
  obtain ⟨ranking⟩ := exists_ranking range.fieldType
  exact ⟨rfl, isOf, nonempty,
    (contains_iff ranking isOf isOf rfl rfl).mpr ⟨le_rfl, le_rfl⟩⟩

theorem grantsRoom_inter
    (sameType : b.type = a.type)
    (isA : a.IsOf)
    (isB : b.IsOf) :
    GrantsRoom inner (.range a) (.range b) (a.inter b) := by
  have isArray : (a.inner b).type = a.type := rfl
  unfold Range.inter
  dsimp only
  split
  · trivial
  · split
    · rename_i array
      split
      · refine grants_agreed ?_
        rintro _ ⟨⟩
        simp [Leaf.Spans, array, sameType]
      · split
        · refine grants_agreed ?_
          rintro _ ⟨⟩
          simp [Leaf.Spans, array, sameType]
        · trivial
    · rename_i single
      rw [Bool.not_eq_true] at single
      split
      · refine grants_agreed ?_
        rintro _ ⟨⟩
        simp [Leaf.Spans, isArray, single, sameType,
          covers_inner_iff isA isB (congrArg ValueType.fieldType sameType)]
      · rename_i apart
        intro _ both
        simp only [Leaf.Spans, single, sameType, Bool.false_eq_true, false_or]
          at both
        exact apart (both.1.overlaps isA isB both.2)

theorem grantsRoom_interTerm (sameType : term.type = range.type) :
    GrantsRoom inner (.range range) (.term term) (range.interTerm term) := by
  unfold interTerm
  split
  · refine grants_agreed ?_
    rintro _ ⟨⟩
    simp only [Leaf.Spans, sameType]
    exact ⟨fun array => ⟨.inl array, array⟩, And.right⟩
  · trivial

theorem grantsRoom_interValues
    (sameType : set.type = range.type)
    (nonempty : set.values ≠ []) :
    GrantsRoom inner (.range range) (.valueSet set)
      (range.interValues set) := by
  have room : set.type.isArray = true → (Leaf.range range).Spans inner :=
    fun array => .inl (sameType ▸ array)
  unfold interValues
  dsimp only
  split
  · split
    · rename_i all
      refine Leaf.grantsRoom_values rfl room fun none => nonempty ?_
      rw [none, beq_iff_eq] at all
      exact List.eq_nil_of_length_eq_zero all.symm
    · trivial
  · split
    · rename_i some
      exact Leaf.grantsRoom_values rfl room (by simpa using some)
    · trivial

end Range

theorem Pattern.grantsRoom_inter
    {pattern : Pattern}
    {leaf : Leaf}
    {scope : Scope}
    {values : List Value}
    (exact : leaf.exactValues? = some (scope, values))
    (nonempty : values ≠ [])
    (meaning : ∃ holds, pattern.matcher.predicate = .ok holds) :
    GrantsRoom inner (.pattern pattern) leaf (pattern.inter leaf) := by
  obtain ⟨holds, meaning⟩ := meaning
  rw [Pattern.inter, split?_eq exact, meaning]
  split
  · change GrantsRoom _ _ _ (pattern.interSplit leaf _)
    unfold interSplit
    dsimp only
    split
    · split
      · rename_i noneLeft
        have complete : values.filter (holdsOf holds) = values := by
          rw [List.filter_eq_self]
          simpa using noneLeft
        exact Leaf.grantsRoom_values exact (fun _ => trivial)
          (complete.symm ▸ nonempty)
      · trivial
    · split
      · rename_i some
        exact Leaf.grantsRoom_values exact (fun _ => trivial)
          (by simpa using some)
      · trivial
  · trivial

theorem Scope.same_self_of_same {a b : Scope} (alike : a.same b = true) :
    b.same b = true := by
  simp only [same, Bool.and_eq_true, beq_iff_eq, and_true, true_and] at alike ⊢
  have weights := (Binary64.equals_comm _ _).trans alike.1.2
  exact Binary64.equals_of_equals weights weights

/-- Ranges that are the same cover the same ranges. -/
theorem Range.covers_iff_of_same
    {a b : Range}
    (tight : discipline.tight = true)
    (keepsA : a.Keeps discipline)
    (keepsB : b.Keeps discipline)
    (alike : a.same b = true) :
    a.Covers inner ↔ b.Covers inner := by
  have parts := alike
  simp only [Range.same, Bool.and_eq_true, beq_iff_eq] at parts
  obtain ⟨⟨⟨⟨sameScope, -⟩, -⟩, relation⟩, timeZone⟩ := parts
  have isOnA : b.IsOn a :=
    ⟨sameScope, relation, timeZone, keepsA.isOf, keepsA.nonempty tight⟩
  have isOnB : b.IsOn b :=
    ⟨Scope.same_self_of_same sameScope, rfl, rfl, keepsB.isOf,
      keepsB.nonempty tight⟩
  have sameType := isOnA.fieldType_eq
  obtain ⟨ranking⟩ := exists_ranking b.fieldType
  obtain ⟨begins, ends⟩ := isOnA.cuts_eq_of_same isOnB ranking alike
  constructor
  · rintro ⟨typed, isInner, nonempty, within⟩
    rw [contains_iff ranking keepsA.isOf isInner sameType
      (typed.trans sameType), begins,
      ends] at within
    exact ⟨typed.trans sameType, isInner, nonempty,
      (contains_iff ranking keepsB.isOf isInner
        rfl (typed.trans sameType)).mpr within⟩
  · rintro ⟨typed, isInner, nonempty, within⟩
    rw [contains_iff ranking keepsB.isOf isInner rfl typed, ← begins, ← ends]
      at within
    exact ⟨typed.trans sameType.symm, isInner, nonempty,
      (contains_iff ranking keepsA.isOf isInner sameType typed).mpr within⟩

namespace Leaf

variable {a b : Leaf}

/-- A leaf with a scope is of the type that the discipline has for its key. -/
theorem Keeps.type_eq
    {leaf : Leaf}
    {scope : Scope}
    (keeps : leaf.Keeps discipline)
    (isScope : leaf.scope? = some scope) :
    scope.type = discipline.types leaf.key := by
  cases leaf <;> cases isScope <;> first
    | exact keeps
    | exact keeps.typed

/-- Leaves that are the same leave the same room. -/
theorem spans_iff_of_same
    (tight : discipline.tight = true)
    (keepsA : a.Keeps discipline)
    (keepsB : b.Keeps discipline)
    (alike : a.same b = true) :
    a.Spans inner ↔ b.Spans inner := by
  cases a <;> cases b <;> try cases alike
  case range.range a b =>
    have scopes := alike
    simp only [same, Range.same, Bool.and_eq_true] at scopes
    rw [Spans, Spans, (Scope.field_and_type_eq_of_same scopes.1.1.1.1).2,
      Range.covers_iff_of_same tight keepsA keepsB alike]
  case term.term a b =>
    rw [same, Term.same, Bool.and_eq_true] at alike
    rw [Spans, Spans, (Scope.field_and_type_eq_of_same alike.1).2]
  case valueSet.valueSet a b =>
    rw [same, ValueSet.same, Bool.and_eq_true] at alike
    rw [Spans, Spans, (Scope.field_and_type_eq_of_same alike.1).2]
  all_goals rfl

/-- The weight and the scoring of a leaf do not matter for the room that it
leaves. -/
theorem spans_bare (leaf : Leaf) :
    leaf.bare.Spans inner ↔ leaf.Spans inner := by
  cases leaf with
  | range content =>
      exact or_congr_right ⟨fun ⟨typed, isOf, nonempty, contains⟩ =>
        ⟨typed, isOf, nonempty, contains⟩,
        fun ⟨typed, isOf, nonempty, contains⟩ =>
          ⟨typed, isOf, nonempty, contains⟩⟩
  | _ => rfl

section AtKey

variable (tight : discipline.tight = true) (keepsA : a.Keeps discipline)
  (keepsB : b.Keeps discipline)
include tight keepsA keepsB

theorem grantsRoom_mergeSame : GrantsRoom inner a b (mergeSame .both a b) := by
  unfold mergeSame
  split
  · rename_i alike
    refine grants_agreed ?_
    rintro _ ⟨⟩
    have room : a.Spans inner ↔ b.Spans inner := by
      rw [← spans_bare a, ← spans_bare b]
      exact spans_iff_of_same tight keepsA.bare keepsB.bare alike
    rw [← room, and_self]
  · trivial

/-- The intersection of narrow leaves with one key is right about the room that
is left. -/
theorem grantsRoom_interAtKey
    (inner : Range)
    (neatA : a.IsNeat)
    (neatB : b.IsNeat)
    (narrowA : a.isBroad = false)
    (narrowB : b.isBroad = false)
    (sameKey : a.key = b.key) :
    GrantsRoom inner a b (interAtKey a b) := by
  have sameType : ∀ {s t : Scope}, a.scope? = some s → b.scope? = some t →
      t.type = s.type :=
    fun isA isB => by rw [keepsA.type_eq isA, keepsB.type_eq isB, sameKey]
  unfold interAtKey
  split
  · cases narrowA
  · cases narrowB
  · exact IdSet.grantsRoom_inter _ _
  · exact fun isExclusion => nomatch isExclusion
  · exact fun isExclusion => nomatch isExclusion
  · exact Term.grantsRoom_inter (sameType rfl rfl)
  · exact ValueSet.grantsRoom_interTerm (sameType rfl rfl)
  · exact (ValueSet.grantsRoom_interTerm (sameType rfl rfl).symm).symm
  · exact ValueSet.grantsRoom_inter (sameType rfl rfl) keepsA.nonempty
      keepsB.nonempty
  · exact Range.grantsRoom_inter (sameType rfl rfl) keepsA.isOf keepsB.isOf
  · exact Range.grantsRoom_interTerm (sameType rfl rfl)
  · exact (Range.grantsRoom_interTerm (sameType rfl rfl).symm).symm
  · exact Range.grantsRoom_interValues (sameType rfl rfl) keepsB.nonempty
  · exact (Range.grantsRoom_interValues (sameType rfl rfl).symm
      keepsA.nonempty).symm
  · exact Pattern.grantsRoom_inter rfl (List.cons_ne_nil _ _) neatA
  · exact Pattern.grantsRoom_inter rfl keepsB.nonempty neatA
  · exact (Pattern.grantsRoom_inter rfl (List.cons_ne_nil _ _) neatB).symm
  · exact (Pattern.grantsRoom_inter rfl keepsA.nonempty neatB).symm
  · exact grantsRoom_mergeSame tight keepsA keepsB

end AtKey
end Leaf
end Intersections

/-- A number that equals another equals whatever the other equals. -/
theorem Binary64.equals_iff_of_equals
    {a b : Binary64}
    (equal : a.equals b = true)
    (weight : Binary64) :
    a.equals weight = true ↔ b.equals weight = true := by
  have swapped := (equals_comm b a).trans equal
  constructor
  · intro equalA
    exact equals_of_equals swapped ((equals_comm weight a).trans equalA)
  · intro equalB
    exact equals_of_equals equal ((equals_comm weight b).trans equalB)

namespace Leaf

/-- What is known of the leaves of compiled trees: they keep to a discipline,
have a meaning, and have a weight that equals itself. -/
structure IsSound (discipline : Discipline) (leaf : Leaf) : Prop where
  keeps : leaf.Keeps discipline
  neat : leaf.IsNeat
  weighed : leaf.boost.equals leaf.boost = true

variable {discipline : Discipline} {operation : MergeOperation}
  {stone : Touchstone}
  {a b result leaf : Leaf}

theorem passes_iff_of_narrow (narrow : leaf.isBroad = false) :
    leaf.Passes discipline.types operation stone ↔
      leaf.boost.equals stone.weight = true ∧ leaf.isIds = stone.isIds ∧
        (operation = .inter → leaf.Reaches discipline.types stone.spot) := by
  simp [Passes, narrow]

theorem passes_of_isBroad (broad : leaf.isBroad = true) :
    leaf.Passes discipline.types .inter stone :=
  .inl ⟨rfl, broad⟩

section Same

variable (alike : a.same b = true)
include alike

theorem isBroad_and_isIds_eq_of_same :
    a.isBroad = b.isBroad ∧ a.isIds = b.isIds := by
  cases a <;> cases b <;> first
    | exact ⟨rfl, rfl⟩
    | cases alike

/-- Leaves that are the same have one weight. -/
theorem equals_boost_of_same : a.boost.equals b.boost = true := by
  cases a <;> cases b <;> try cases alike
  case presence.presence => exact Binary64.equals_one
  case nothing.nothing => exact Binary64.equals_one
  all_goals
    simp only [same, Term.same, ValueSet.same, Range.same, FullText.same,
      Phrase.same, Pattern.same, IdSet.same, QueryText.same, Scope.same,
      Bool.and_eq_true] at alike
    tauto

/-- Leaves that are the same pass the same touchstones. -/
theorem passes_iff_of_same
    (tight : discipline.tight = true)
    (keepsA : a.Keeps discipline)
    (keepsB : b.Keeps discipline) :
    a.Passes discipline.types operation stone ↔
      b.Passes discipline.types operation stone := by
  obtain ⟨isBroad, isIds⟩ := isBroad_and_isIds_eq_of_same alike
  have reaches : a.Reaches discipline.types stone.spot ↔
      b.Reaches discipline.types stone.spot := by
    cases stone.spot with
    | document engine document =>
        refine and_congr_right fun fits => ?_
        rw [holds_eq_of_same keepsA keepsB fits alike]
    | within inner => exact spans_iff_of_same tight keepsA keepsB alike
  rw [Passes, Passes, isBroad, isIds,
    Binary64.equals_iff_of_equals (equals_boost_of_same alike)
      stone.weight, reaches]

end Same

/-- Narrow leaves that come together list identifiers both or not at all. -/
theorem isIds_eq_of_isOneLeaf
    (narrowA : a.isBroad = false)
    (narrowB : b.isBroad = false)
    (single : IsOneLeaf (mergeAtKey operation a b)) :
    a.isIds = b.isIds := by
  cases operation <;> cases a <;> cases b <;> first
    | rfl
    | exact absurd single (not_isOneLeaf_error _)
    | exact Bool.noConfusion (show true = false from narrowA)
    | exact Bool.noConfusion (show true = false from narrowB)

/-- Under intersection presence gives way to the other leaf of its key. -/
theorem eq_of_interAtKey_of_isBroad
    (notTrivial : (a.isTrivial || b.isTrivial) = false)
    (broad : a.isBroad = true ∨ b.isBroad = true)
    (merges : interAtKey a b = .ok (.leaf result)) :
    (a.isBroad = true ∧ result = b) ∨ (b.isBroad = true ∧ result = a) := by
  obtain ⟨notTrivialA, notTrivialB⟩ := Bool.or_eq_false_iff.mp notTrivial
  rcases broad with broad | broad
  · cases a with
    | presence content =>
        cases merges
        exact .inl ⟨rfl, rfl⟩
    | everything boost => cases notTrivialA
    | _ => cases broad
  · cases b with
    | presence content =>
        cases a with
        | presence other =>
            cases merges
            exact .inl ⟨rfl, rfl⟩
        | _ =>
            cases merges
            exact .inr ⟨rfl, rfl⟩
    | everything boost => cases notTrivialB
    | _ => cases broad

/-- Under intersection everything gives way to the other leaf. -/
theorem eq_of_inter_of_isTrivial
    (statedA : a.isNothing = false)
    (statedB : b.isNothing = false)
    (trivial : (a.isTrivial || b.isTrivial) = true)
    (merges : merge .inter a b = .ok (.leaf result)) :
    (a.isBroad = true ∧ result = b) ∨ (b.isBroad = true ∧ result = a) := by
  cases a with
  | nothing => cases statedA
  | everything boost =>
      cases b with
      | nothing => cases statedB
      | everything other =>
          have isOne := @merge_eq_of_isTrivial .inter _ _ trivial
          rw [merges, Except.ok.injEq, Except.ok.injEq, Node.leaf.injEq,
            Node.leaf.injEq] at isOne
          exact isOne.symm.imp (fun isB => ⟨rfl, isB⟩) fun isA => ⟨rfl, isA⟩
      | _ =>
          cases merges
          exact .inl ⟨rfl, rfl⟩
  | _ =>
      cases b with
      | everything other =>
          cases merges
          exact .inr ⟨rfl, rfl⟩
      | nothing => cases statedB
      | _ => cases trivial

/-- Under intersection a broad leaf gives way to the other. -/
theorem eq_of_inter_of_isBroad
    (statedA : a.isNothing = false)
    (statedB : b.isNothing = false)
    (broad : a.isBroad = true ∨ b.isBroad = true)
    (merges : merge .inter a b = .ok (.leaf result)) :
    (a.isBroad = true ∧ result = b) ∨ (b.isBroad = true ∧ result = a) := by
  cases merging .inter a b with
  | left isFirst stands =>
      rcases stands with alike | trivial
      · cases isFirst.symm.trans merges
        rw [(isBroad_and_isIds_eq_of_same alike).1, or_self] at broad
        exact .inr ⟨broad, rfl⟩
      · exact eq_of_inter_of_isTrivial statedA statedB trivial merges
  | right _ trivial =>
      exact eq_of_inter_of_isTrivial statedA statedB trivial merges
  | atKey merged _ _ notTrivial =>
      exact eq_of_interAtKey_of_isBroad notTrivial broad
        (merged.symm.trans merges)
  | apart apart => cases apart.symm.trans merges

/-- Narrow leaves that state something are not trivial. -/
theorem isTrivial_eq_false_of_narrow
    (stated : leaf.isNothing = false)
    (narrow : leaf.isBroad = false) :
    leaf.isTrivial = false := by
  cases leaf with
  | nothing => cases stated
  | everything boost => cases narrow
  | _ => rfl

section Trials

variable (tight : discipline.tight = true)
  (normalA : (Node.leaf a).IsNormal (IsSound discipline))
  (normalB : (Node.leaf b).IsNormal (IsSound discipline))
include tight normalA normalB

/-- Leaves that take in one spot do not exclude each other. -/
theorem not_reaches_of_exclusion
    {spot : Spot}
    {error : Error}
    (failure : merge .inter a b = .error error)
    (isExclusion : error.isExclusion = true) :
    ¬(a.Reaches discipline.types spot ∧ b.Reaches discipline.types spot) := by
  obtain ⟨keepsA, neatA, -⟩ := normalA.lawful_leaf
  obtain ⟨keepsB, neatB, -⟩ := normalB.lawful_leaf
  obtain ⟨narrowA, narrowB⟩ := isBroad_eq_false_of_merge_eq_error failure
  cases spot with
  | document engine document =>
      rintro ⟨⟨fits, holdsA⟩, -, holdsB⟩
      have merges : MergeOperation.inter.Merges discipline.unprobed
          (.leaf a) (.leaf b)
          (merge .inter a b) :=
        merges_of_narrow tight (normalA.wellFormed.mono fun _ => IsSound.keeps)
          (normalB.wellFormed.mono fun _ => IsSound.keeps) narrowA narrowB
      rw [failure] at merges
      have apart :=
        (merges isExclusion).2 discipline.isSeparated_unprobed engine
          document fits
      rw [Node.holds_leaf, Node.holds_leaf, holdsA, holdsB] at apart
      cases apart
  | within inner =>
      cases merging .inter a b with
      | left merges => cases merges.symm.trans failure
      | right merges => cases merges.symm.trans failure
      | apart merges => cases merges.symm.trans failure
      | atKey merges sameKey =>
          have grants := grantsRoom_interAtKey tight keepsA keepsB inner
            neatA neatB
            narrowA narrowB sameKey
          rw [show interAtKey a b = .error error from merges.symm.trans failure]
            at grants
          exact grants isExclusion

/-- Leaves that pass one touchstone merge. -/
theorem exists_merge_of_passes
    (passesA : a.Passes discipline.types operation stone)
    (passesB : b.Passes discipline.types operation stone) :
    ∃ node, merge operation a b = .ok node := by
  cases outcome : merge operation a b with
  | ok node => exact ⟨node, rfl⟩
  | error error =>
      obtain ⟨narrowA, narrowB⟩ := isBroad_eq_false_of_merge_eq_error outcome
      obtain ⟨weightA, kindA, reachA⟩ :=
        (passes_iff_of_narrow narrowA).mp passesA
      obtain ⟨weightB, kindB, reachB⟩ :=
        (passes_iff_of_narrow narrowB).mp passesB
      obtain ⟨rfl, isExclusion⟩ := isExclusion_of_merge_eq_error
        (fun _ => Binary64.equals_of_equals weightA weightB)
          (kindA.trans kindB.symm)
        normalA.lawful_leaf.neat normalB.lawful_leaf.neat outcome
      exact absurd ⟨reachA rfl, reachB rfl⟩
        (not_reaches_of_exclusion tight normalA normalB outcome isExclusion)

/-- Where narrow leaves with one key intersect to one leaf, it takes in a spot
where both do. -/
theorem reaches_iff_of_interAtKey
    {spot : Spot}
    (narrowA : a.isBroad = false)
    (narrowB : b.isBroad = false)
    (sameKey : a.key = b.key)
    (merges : merge .inter a b = .ok (.leaf result))
    (atKey : merge .inter a b = interAtKey a b) :
    result.Reaches discipline.types spot ↔
      a.Reaches discipline.types spot ∧ b.Reaches discipline.types spot := by
  obtain ⟨keepsA, neatA, -⟩ := normalA.lawful_leaf
  obtain ⟨keepsB, neatB, -⟩ := normalB.lawful_leaf
  cases spot with
  | document engine document =>
      have joins : MergeOperation.inter.Merges discipline.unprobed
          (.leaf a) (.leaf b)
          (merge .inter a b) :=
        merges_of_narrow tight (normalA.wellFormed.mono fun _ => IsSound.keeps)
          (normalB.wellFormed.mono fun _ => IsSound.keeps) narrowA narrowB
      rw [merges] at joins
      have join :
          (Node.leaf result).IsJoin discipline.unprobed .inter (.leaf a)
            (.leaf b) := joins
      have holds := join.holds discipline.isSeparated_unprobed engine document
      simp only [Node.holds_leaf, MergeOperation.join] at holds
      constructor
      · rintro ⟨fits, holdsResult⟩
        rw [holds fits, Bool.and_eq_true] at holdsResult
        exact ⟨⟨fits, holdsResult.1⟩, fits, holdsResult.2⟩
      · rintro ⟨⟨fits, holdsA⟩, -, holdsB⟩
        refine ⟨fits, ?_⟩
        rw [holds fits, holdsA, holdsB]
        rfl
  | within inner =>
      have grants := grantsRoom_interAtKey tight keepsA keepsB inner neatA neatB
        narrowA narrowB sameKey
      rw [← atKey, merges] at grants
      exact grants.2

/-- Narrow leaves that come together by the rule of their key have one
weight. -/
theorem equals_boost_of_isOneLeaf
    (narrowA : a.isBroad = false)
    (narrowB : b.isBroad = false)
    (sameKey : a.key = b.key)
    (merges : mergeAtKey operation a b = .ok (.leaf result)) :
    a.boost.equals b.boost = true := by
  obtain ⟨keepsA, neatA, -⟩ := normalA.lawful_leaf
  obtain ⟨keepsB, neatB, -⟩ := normalB.lawful_leaf
  cases operation with
  | union =>
      have grants := grants_unionAtKey narrowA narrowB
      rw [show unionAtKey a b = .ok (.leaf result) from merges] at grants
      exact grants.1
  | inter =>
      have grants := grantsRoom_interAtKey tight keepsA keepsB
        (.unbounded .ofSize) neatA
        neatB narrowA narrowB sameKey
      rw [show interAtKey a b = .ok (.leaf result) from merges] at grants
      exact grants.1

/-- A leaf that comes of a merge passes a touchstone where both of the merged
leaves do, unless one of them takes in the other whatever it is. -/
theorem passes_iff_of_merge
    (narrow : operation = .union → a.isBroad = false ∧ b.isBroad = false)
    (merges : merge operation a b = .ok (.leaf result)) :
    result.Passes discipline.types operation stone ↔
      a.Passes discipline.types operation stone ∧
        b.Passes discipline.types operation stone := by
  have keepsA := normalA.lawful_leaf.keeps
  have keepsB := normalB.lawful_leaf.keeps
  by_cases broad : a.isBroad = true ∨ b.isBroad = true
  · cases operation with
    | union => simp [narrow rfl] at broad
    | inter =>
        rcases eq_of_inter_of_isBroad normalA.condition_leaf
          normalB.condition_leaf broad merges with
          ⟨broadA, rfl⟩ | ⟨broadB, rfl⟩
        · exact ⟨fun passes => ⟨passes_of_isBroad broadA, passes⟩, And.right⟩
        · exact ⟨fun passes => ⟨passes, passes_of_isBroad broadB⟩, And.left⟩
  · simp only [not_or, Bool.not_eq_true] at broad
    obtain ⟨narrowA, narrowB⟩ := broad
    have notTrivial : (a.isTrivial || b.isTrivial) = false := by
      rw [isTrivial_eq_false_of_narrow normalA.condition_leaf narrowA,
        isTrivial_eq_false_of_narrow normalB.condition_leaf narrowB]
      rfl
    cases merging operation a b with
    | left isFirst stands =>
        cases isFirst.symm.trans merges
        have alike := stands.resolve_right (Bool.eq_false_iff.mp notTrivial)
        rw [← passes_iff_of_same alike tight keepsA keepsB, and_self]
    | right _ trivial => exact absurd trivial (Bool.eq_false_iff.mp notTrivial)
    | apart apart => cases operation <;> cases apart.symm.trans merges
    | atKey atKey sameKey =>
        have atKeyMerges := atKey.symm.trans merges
        have kinds :=
          isIds_eq_of_isOneLeaf narrowA narrowB ⟨result, atKeyMerges⟩
        have weights := equals_boost_of_isOneLeaf tight normalA normalB narrowA
          narrowB sameKey
          atKeyMerges
        have reaches : operation = .inter →
            (result.Reaches discipline.types stone.spot ↔
            a.Reaches discipline.types stone.spot ∧
              b.Reaches discipline.types stone.spot) := by
          rintro rfl
          exact reaches_iff_of_interAtKey tight normalA normalB narrowA narrowB
            sameKey merges atKey
        rcases isAkin_of_merge_eq_leaf keepsA.isFilled keepsB.isFilled
          merges with akin | akin
        · rw [passes_iff_of_narrow (akin.isBroad.trans narrowA),
            passes_iff_of_narrow narrowA, passes_iff_of_narrow narrowB,
            akin.boost, akin.isIds, ← kinds,
            Binary64.equals_iff_of_equals weights]
          tauto
        · rw [passes_iff_of_narrow (akin.isBroad.trans narrowB),
            passes_iff_of_narrow narrowA, passes_iff_of_narrow narrowB,
            akin.boost, akin.isIds, kinds,
            Binary64.equals_iff_of_equals weights]
          tauto

end Trials

section Existence

/-- A document with one value in one field fits types that the value is of. -/
theorem fits_ofValue
    {types : String → ValueType}
    {field : String}
    {value : Value}
    (isValue : value.isOf (types field).fieldType = true) :
    (StoredDocument.ofValue field value).Fits types where
  kinds other found isFound := by
    unfold StoredDocument.ofValue at isFound
    dsimp only at isFound
    split at isFound
    · rename_i isField
      rw [List.mem_singleton.mp isFound, isField]
      exact isValue
    · cases isFound
  single other _ := by
    unfold StoredDocument.ofValue
    dsimp only
    split
    · exact Nat.le_refl 1
    · exact Nat.zero_le 1

theorem hasValue_ofValue
    {field : String}
    {value : Value}
    {test : Value → Bool}
    (passes : test value = true) :
    (StoredDocument.ofValue field value).hasValue field test = true := by
  rw [StoredDocument.hasValue, StoredDocument.ofValue]
  simp [passes]

/-- Every leaf takes in a spot: values and identifiers a document with one of
them, a range itself, and other leaves any range. -/
theorem exists_reaches
    (tight : discipline.tight = true)
    (keeps : leaf.Keeps discipline)
    (neat : leaf.IsNeat) :
    ∃ spot, leaf.Reaches discipline.types spot := by
  cases leaf with
  | term content =>
      have isValue := keeps.typed ▸ keeps.kind
      exact ⟨.document default (.ofValue content.field content.value),
        fits_ofValue isValue, hasValue_ofValue (Value.equal_self keeps.kind)⟩
  | valueSet content =>
      obtain ⟨value, isMember⟩ := List.exists_mem_of_ne_nil _ keeps.nonempty
      have kind := keeps.arranged.kinds value isMember
      have isValue := keeps.typed ▸ kind
      refine ⟨.document default (.ofValue content.field value),
        fits_ofValue isValue, hasValue_ofValue ?_⟩
      rw [ValueSet.contains_eq_meets content keeps.arranged kind]
      exact List.any_eq_true.mpr ⟨value, isMember, Value.equal_self kind⟩
  | range content =>
      exact ⟨.within content,
        .inr (Range.covers_self keeps.isOf (keeps.nonempty tight))⟩
  | ids content =>
      obtain ⟨id, isMember⟩ := List.exists_mem_of_ne_nil _ neat.1
      refine ⟨.document default ⟨id, fun _ => []⟩,
        ⟨?_, fun _ _ => Nat.zero_le 1⟩,
        (IdSet.contains_iff_mem content id).mpr isMember⟩
      rintro _ _ ⟨⟩
  | _ => exact ⟨.within (.unbounded .ofSize), trivial⟩

/-- Every leaf passes a touchstone. -/
theorem exists_passes
    (operation : MergeOperation)
    (tight : discipline.tight = true)
    (sound : leaf.IsSound discipline) :
    ∃ stone, leaf.Passes discipline.types operation stone := by
  obtain ⟨spot, reaches⟩ := exists_reaches tight sound.keeps sound.neat
  exact ⟨⟨leaf.boost, leaf.isIds, spot⟩,
    .inr ⟨sound.weighed, rfl, fun _ => reaches⟩⟩

end Existence
end Leaf

end SearchQuery
