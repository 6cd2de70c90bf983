import SearchQuery.Proofs.ExactMerges

/-!
# Exact values that ranges absorb

A value that stands on an exclusive bound of a range makes that bound inclusive.
Where the other bound does not admit the value, the range loses it. A range that
leaves a place for a value loses none, and apart from lost values a union holds
for what either side holds for.
-/

namespace SearchQuery
namespace Range

variable {range : Range} {value : Value}

/-- A value that a range does not take in is not lost. -/
theorem not_loses_of_takeIn? (untaken : range.takeIn? value = none) :
    ¬range.Loses value := by
  have untouched : range.widenTo? value = none := by
    unfold takeIn? at untaken
    split at untaken
    · cases untaken
    · exact untaken
  unfold widenTo? at untouched
  rintro (⟨lower, meets, -⟩ | ⟨upper, meets, -⟩)
  · simp [lower, meets] at untouched
  · rcases lower : range.lower with _ | ⟨_ | _, bound⟩
    · simp [lower, upper, meets] at untouched
    · simp only [lower, upper, meets, if_true] at untouched
      split at untouched <;> cases untouched
    · simp [lower, upper, meets] at untouched

/-- The value is in the range or equal to one of some values that the range does
not lose. -/
def Gathers (range : Range) (values : List Value) (value : Value) : Prop :=
  range.includes value = true ∨
    ∃ member ∈ values, ¬range.Loses member ∧
      member.equal range.fieldType value = true

/-- A first value is gathered unless the range loses it. -/
theorem gathers_cons (first : Value) (rest : List Value) :
    range.Gathers (first :: rest) value ↔
      (first.equal range.fieldType value = true ∧ ¬range.Loses first) ∨
        range.Gathers rest value := by
  rw [Gathers, Gathers, List.exists_mem_cons_iff,
    and_comm (a := ¬range.Loses first)]
  exact or_left_comm

/-- A range that leaves a place for a value gathers all values of its kind. -/
theorem gathers_iff_of_nonempty
    {values : List Value}
    (isRange : range.IsOf)
    (nonempty : range.isEmpty = false)
    (kinds : ∀ member ∈ values, member.isOf range.fieldType = true) :
    range.Gathers values value ↔ range.includes value = true ∨
      ∃ member ∈ values, member.equal range.fieldType value = true := by
  refine or_congr_right
    (exists_congr fun member => and_congr_right fun isMember => ?_)
  exact and_iff_right (not_loses isRange (kinds member isMember) nonempty)

/-- What a range makes of values that it takes in one after the other: a range
on the same field and the values that stay outside, which together cover what
the range gathers. -/
structure WidensAll (range : Range) (values : List Value) (wider : Range)
    (outside : List Value) : Prop where
  scope : wider.toScope = range.toScope
  isOf : wider.IsOf
  sublist : outside.Sublist values
  covers : ∀ other, other.isOf range.fieldType = true →
    (wider.includes other = true ∨ range.meets outside other = true ↔
      range.Gathers values other)

/-- A range that is widened to a value gathers what it did before, and the value
unless it loses it. -/
theorem Widens.gathers_iff
    {wider : Range}
    {rest : List Value}
    {other : Value}
    (widens : range.Widens value wider)
    (kinds : ∀ member ∈ rest, member.isOf range.fieldType = true)
    (differ : ∀ member ∈ rest, value.equal range.fieldType member = false)
    (isOther : other.isOf range.fieldType = true) :
    wider.Gathers rest other ↔ range.Gathers (value :: rest) other := by
  have sameType : wider.fieldType = range.fieldType :=
    congrArg (fun scope => scope.type.fieldType) widens.scope
  have sameRest : (∃ member ∈ rest, ¬wider.Loses member ∧
      member.equal wider.fieldType other = true) ↔
      ∃ member ∈ rest, ¬range.Loses member ∧
        member.equal range.fieldType other = true := by
    refine exists_congr fun member => and_congr_right fun isMember => ?_
    rw [sameType,
      widens.loses_iff member (kinds member isMember) (differ member isMember)]
  rw [gathers_cons, Gathers, Gathers,
    widens.includes_iff other isOther, sameRest]
  exact or_assoc.trans or_left_comm

/-- Taking in increasing values one after the other covers what the range
gathers. -/
theorem widensAll_takeInAll
    (values : List Value)
    (isRange : range.IsOf)
    (arranged : ValueSet.IsArranged range.toScope values) :
    range.WidensAll values (range.takeInAll values).1
      (range.takeInAll values).2 := by
  induction values generalizing range with
  | nil =>
      exact ⟨rfl, isRange, .refl _,
        fun other _ => by simp [takeInAll, Gathers, Scope.meets]⟩
  | cons value rest hypothesis =>
      obtain ⟨isValue, kinds⟩ := List.forall_mem_cons.mp arranged.kinds
      obtain ⟨before, increasing⟩ := List.pairwise_cons.mp arranged.increasing
      rw [takeInAll]
      split
      · rename_i wider taken
        have widens := widens_of_takeIn? isRange isValue taken
        have sameType : wider.fieldType = range.fieldType :=
          congrArg (fun scope => scope.type.fieldType) widens.scope
        have all := hypothesis widens.isOf (widens.scope ▸ ⟨kinds, increasing⟩)
        refine ⟨all.scope.trans widens.scope, all.isOf, all.sublist.cons value,
          fun other isOther => ?_⟩
        have covers := all.covers other (sameType ▸ isOther)
        rw [widens.scope] at covers
        rw [covers, widens.gathers_iff kinds _ isOther]
        intro member isMember
        have less : value.order range.fieldType member = .lt :=
          before member isMember
        rw [Value.equal, less]
        rfl
      · rename_i untaken
        have kept := not_loses_of_takeIn? untaken
        have all := hypothesis isRange ⟨kinds, increasing⟩
        refine ⟨all.scope, all.isOf, all.sublist.cons_cons value,
          fun other isOther => ?_⟩
        have covers := all.covers other isOther
        rw [gathers_cons, ← covers, and_iff_left kept, Scope.meets, Scope.meets,
          List.any_cons, Bool.or_eq_true]
        exact or_left_comm

end Range

section Leaves

variable {engine : Engine} {document : StoredDocument} {set : ValueSet}

/-- A term holds where its value is met. -/
theorem Term.holds_iff (term : Term) :
    (Leaf.term term).holds engine document = true ↔
      ∃ value ∈ document.values term.field,
        term.meets [term.value] value = true := by
  refine List.any_eq_true.trans
    (exists_congr fun value => and_congr_right fun _ => ?_)
  rw [Scope.meets, List.any_cons, List.any_nil, Bool.or_false]
  rfl

/-- A set of arranged values holds where one of them is met. -/
theorem ValueSet.holds_iff
    (arranged : IsArranged set.toScope set.values)
    (kinds : ∀ value ∈ document.values set.field,
      value.isOf set.type.fieldType = true) :
    (Leaf.valueSet set).holds engine document = true ↔
      ∃ value ∈ document.values set.field,
        set.meets set.values value = true := by
  refine List.any_eq_true.trans
    (exists_congr fun value => and_congr_right fun isValue => ?_)
  rw [contains_eq_meets set arranged (kinds value isValue)]

/-- A range beside the smallest leaf for some values holds where the range does
or one of the values is met. -/
theorem Range.holds_beside_iff
    {scope : Scope}
    {values : List Value}
    (wider : Range)
    (isOf : ∀ value ∈ values, value.isOf scope.type.fieldType = true)
    (kinds : ∀ value ∈ document.values scope.field,
      value.isOf scope.type.fieldType = true) :
    (match (ValueSet.ofValues scope values).leaf with
      | .nothing => Node.leaf (.range wider)
      | rest =>
          .either (.leaf (.range wider)) (.leaf rest)).holds engine
            document = true ↔
      (Node.leaf (.range wider)).holds engine document = true ∨
        ∃ value ∈ document.values scope.field,
          scope.meets values value = true := by
  have arranged : ValueSet.IsArranged scope (ValueSet.arrange scope values) :=
    ValueSet.isArranged_arrange isOf
  have meets :
      (∃ value ∈ document.values scope.field, scope.meets values value = true) ↔
      ∃ value ∈ document.values scope.field,
        scope.meets (ValueSet.arrange scope values) value = true :=
    exists_congr fun value => and_congr_right fun isValue => by
      rw [ValueSet.meets_arrange isOf (kinds value isValue)]
  rw [meets, ValueSet.leaf, ValueSet.ofValues]
  generalize ValueSet.arrange scope values = arrangement at arranged
  match arrangement with
  | [] => simp [Scope.meets]
  | [value] =>
      rw [Node.holds_either_of_stated rfl rfl, Bool.or_eq_true,
        Node.holds_leaf (.term _)]
      exact or_congr_right (Term.holds_iff ⟨scope, value⟩)
  | first :: second :: rest =>
      rw [Node.holds_either_of_stated rfl rfl, Bool.or_eq_true,
        Node.holds_leaf (.valueSet _)]
      exact or_congr_right (ValueSet.holds_iff arranged kinds)

end Leaves

/-- A result that is given for equal weights is the one intended. -/
theorem eq_of_agreed {field : String} {left right : Binary64}
    {result node : Node}
    (given : agreed field left right result = .ok node) : node = result := by
  unfold agreed agreeOnBoost at given
  split at given
  · exact (Except.ok.inj given).symm
  · cases given

namespace Range

section Unions

variable {range : Range} {document : StoredDocument} (engine : Engine)

/-- A widened range and the values outside it hold where the range gathers the
values. -/
theorem WidensAll.holds_iff
    {values outside : List Value}
    {wider : Range}
    (all : range.WidensAll values wider outside)
    (kinds : ∀ value ∈ document.values range.field,
      value.isOf range.fieldType = true) :
    ((Node.leaf (.range wider)).holds engine document = true ∨
        ∃ value ∈ document.values range.field,
          range.meets outside value = true) ↔
      ∃ value ∈ document.values range.field, range.Gathers values value := by
  have holdsWider : (Node.leaf (.range wider)).holds engine document = true ↔
      ∃ value ∈ document.values range.field, wider.includes value = true := by
    rw [Node.holds_leaf, ← all.scope]
    exact List.any_eq_true
  rw [holdsWider, ← exists_or]
  refine exists_congr fun value => ?_
  rw [← and_or_left]
  exact and_congr_right fun isValue => all.covers value (kinds value isValue)

variable (isRange : range.IsOf)
  (kinds : ∀ value ∈ document.values range.field,
    value.isOf range.fieldType = true)
include isRange kinds

/-- The union of a range and a term holds where the range gathers the value of
the term. -/
theorem holds_unionTerm_iff
    {term : Term}
    {node : Node}
    (sameField : term.field = range.field)
    (sameType : term.type = range.type)
    (isOf : term.value.isOf range.fieldType = true)
    (united : range.unionTerm term = .ok node) :
    node.holds engine document = true ↔
      ∃ value ∈ document.values range.field,
        range.Gathers [term.value] value := by
  have arranged : ValueSet.IsArranged range.toScope [term.value] :=
    ⟨List.forall_mem_singleton.mpr isOf, List.pairwise_singleton _ _⟩
  have all := widensAll_takeInAll [term.value] isRange arranged
  cases taken : range.takeIn? term.value with
  | some wider =>
      simp only [takeInAll, taken] at all
      rw [unionTerm, taken] at united
      rw [eq_of_agreed united, ← all.holds_iff engine kinds]
      simp [Scope.meets]
  | none =>
      simp only [takeInAll, taken] at all
      rw [unionTerm, taken] at united
      cases united
      rw [Node.holds_either_of_stated rfl rfl, Bool.or_eq_true,
        ← all.holds_iff engine kinds, Node.holds_leaf (.term term),
        Term.holds_iff, sameField, Scope.meets_congr sameType]

/-- The union of a range and a set of arranged values holds where the range
gathers one of the values. -/
theorem holds_unionValues_iff
    {set : ValueSet}
    {node : Node}
    (sameField : set.field = range.field)
    (sameType : set.type = range.type)
    (arranged : ValueSet.IsArranged set.toScope set.values)
    (united : range.unionValues set = .ok node) :
    node.holds engine document = true ↔
      ∃ value ∈ document.values range.field,
        range.Gathers set.values value := by
  have arrangedHere : ValueSet.IsArranged range.toScope set.values := by
    obtain ⟨isOf, increasing⟩ := arranged
    rw [sameType] at isOf
    refine ⟨isOf, increasing.imp fun less => ?_⟩
    rwa [Scope.order, ← sameType]
  have all := widensAll_takeInAll set.values isRange arrangedHere
  unfold unionValues at united
  generalize range.takeInAll set.values = taken at all united
  obtain ⟨wider, outside⟩ := taken
  replace all : range.WidensAll set.values wider outside := all
  have isOf : ∀ value ∈ outside, value.isOf set.type.fieldType = true :=
    fun value isMember => arranged.kinds value (all.sublist.subset isMember)
  rw [← all.holds_iff engine kinds, ← sameField, ← Scope.meets_congr sameType]
  rw [← sameField, fieldType, ← sameType] at kinds
  dsimp only at united
  split at united
  · rename_i untouched
    have unchanged := all.sublist.eq_of_length untouched
    cases united
    rw [Node.holds_either_of_stated rfl rfl, Bool.or_eq_true,
      Node.holds_leaf (.valueSet set),
      ValueSet.holds_iff arranged kinds, unchanged]
  · rw [eq_of_agreed united]
    exact holds_beside_iff wider isOf kinds

end Unions

/-- The union of a range with a term, or with a set of arranged values, holds
where some value of the field is in the range or equal to a value of the other
side that the range does not lose. A range that leaves a place for a value loses
none. -/
theorem holds_unions_iff
    {range : Range}
    {document : StoredDocument}
    (engine : Engine)
    (isRange : range.IsOf)
    (kinds : ∀ value ∈ document.values range.field,
      value.isOf range.fieldType = true) :
    (∀ term node, term.field = range.field → term.type = range.type →
      term.value.isOf range.fieldType = true → range.unionTerm term = .ok node →
        (node.holds engine document = true ↔
          ∃ value ∈ document.values range.field,
            range.Gathers [term.value] value)) ∧
    (∀ set node, set.field = range.field → set.type = range.type →
      ValueSet.IsArranged set.toScope set.values →
        range.unionValues set = .ok node →
        (node.holds engine document = true ↔
          ∃ value ∈ document.values range.field,
            range.Gathers set.values value)) ∧
    (range.isEmpty = false → ∀ values value,
      (∀ member ∈ values, member.isOf range.fieldType = true) →
        (range.Gathers values value ↔ range.includes value = true ∨
          ∃ member ∈ values, member.equal range.fieldType value = true)) := by
  refine ⟨?_, ?_, fun nonempty values value =>
    gathers_iff_of_nonempty isRange nonempty⟩
  · intro term node sameField sameType isOf
    exact holds_unionTerm_iff engine isRange kinds sameField sameType isOf
  · intro set node sameField sameType arranged
    exact holds_unionValues_iff engine isRange kinds sameField sameType arranged

/-- The sizes between three and five take in the five. -/
theorem holds_unions_iff_five :
    ∃ node,
      unionValues ⟨.ofSize, some ⟨.gt, .int 3⟩, some ⟨.lt, .int 5⟩, none, none⟩
        ⟨.ofSize, [.int 5, .int 7]⟩ = .ok node ∧
      node.holds default (.ofSize 5) = true := by
  have isRange :
      IsOf ⟨.ofSize, some ⟨.gt, .int 3⟩, some ⟨.lt, .int 5⟩, none, none⟩ :=
    ⟨by rintro _ ⟨⟩; rfl, by rintro _ ⟨⟩; rfl⟩
  have kinds : ∀ value ∈ (StoredDocument.ofSize 5).values "size",
      value.isOf .integer = true :=
    List.forall_mem_singleton.mpr rfl
  obtain ⟨-, unions, gathers⟩ := holds_unions_iff default isRange kinds
  refine ⟨_, rfl,
    (unions ⟨.ofSize, [.int 5, .int 7]⟩ _ rfl rfl ⟨?_, ?_⟩ rfl).mpr ?_⟩
  · decide
  · decide
  · refine ⟨.int 5, List.mem_singleton_self _,
      (gathers rfl _ _ (by decide)).mpr (.inr ?_)⟩
    exact ⟨.int 5, List.mem_cons_self, rfl⟩

/-- A range without a place for a value can lose one: no size lies after five
and before five, and the union with the five makes only the first of the two
bounds inclusive. -/
theorem not_forall_holds_unionTerm :
    ¬∀ (range : Range) (term : Term) (node : Node), range.IsOf →
      term.toScope = range.toScope →
      term.value.isOf range.fieldType = true → range.unionTerm term = .ok node →
        (Leaf.term term).holds default (.ofSize 5) = true →
          node.holds default (.ofSize 5) = true := by
  intro keeps
  have kept := keeps ⟨.ofSize, some ⟨.gt, .int 5⟩, some ⟨.lt, .int 5⟩,
    none, none⟩
    ⟨.ofSize, .int 5⟩ _ ⟨by rintro _ ⟨⟩; rfl, by rintro _ ⟨⟩; rfl⟩
      rfl rfl rfl rfl
  rw [Node.holds_leaf] at kept
  exact absurd kept (by decide)

end Range
end SearchQuery
