import SearchQuery.Compilation
import SearchQuery.Proofs.TreeMerges

/-!
# Compiled conditions

The tree of a condition is well-formed: its leaves have the types of the schema
and the values that were read for them.
-/

namespace SearchQuery

/-- What follows on an outcome succeeds only after a success. -/
theorem exists_of_bind_eq_ok
    {α β : Type}
    {outcome : Except Error α}
    {continuation : α → Except Error β}
    {result : β}
    (success : outcome >>= continuation = .ok result) :
    ∃ value, outcome = .ok value ∧ continuation value = .ok result := by
  cases outcome with
  | error error => cases success
  | ok value => exact ⟨value, rfl, success⟩

/-- Where a list is mapped with success, the results are those for the
elements. -/
theorem forall₂_of_mapM_eq_ok
    {α β : Type}
    {read : α → Except Error β}
    {list : List α}
    {results : List β}
    (success : list.mapM read = .ok results) :
    List.Forall₂ (fun element result => read element = .ok result)
      list results := by
  induction list generalizing results with
  | nil =>
      cases success
      exact .nil
  | cons first rest hypothesis =>
      rw [List.mapM_cons] at success
      obtain ⟨value, readsFirst, success⟩ := exists_of_bind_eq_ok success
      obtain ⟨others, readsRest, success⟩ := exists_of_bind_eq_ok success
      cases success
      exact .cons readsFirst (hypothesis readsRest)

/-- The field that a condition reads. -/
def Condition.field? (condition : Condition) : Option String :=
  match condition.comparison with
  | .everything | .ids | .queryText => none
  | _ => some condition.field

/-- What a condition needs from a discipline: a place for ranges on its field,
and keys for what reads no field. -/
structure Condition.Suits (discipline : Discipline) (condition : Condition) :
    Prop where
  ordered : ∀ field, condition.field? = some field → discipline.ordered field
  ids : condition.comparison = .ids → discipline.foreign IdSet.field
  queryText : condition.comparison = .queryText →
    ∀ field, discipline.foreign field

namespace Compiler

/-- The type of a field under the schema of a compiler. A field that is not
declared counts as a keyword. -/
def types (compiler : Compiler) (field : String) : ValueType :=
  ((compiler.schema.find? field).map FieldSpec.valueType).getD ⟨.keyword, false⟩

/-- A discipline that the trees of a compiler keep to: it has the types of the
schema, asks for a place for a value in every range, and allows to ask for
presence where ranges may stand. -/
structure Obeys (compiler : Compiler) (discipline : Discipline) : Prop where
  types : discipline.types = compiler.types
  tight : discipline.tight = true
  probed : ∀ field, discipline.ordered field → discipline.probed field

variable {compiler : Compiler} {discipline : Discipline} {condition : Condition}
  {scope : Scope} {boost : Binary64}

/-- The scope that a condition resolves to: its field with the type of the
schema, its weight, and what the settings ask of scores. -/
structure Resolves (compiler : Compiler) (condition : Condition)
    (boost : Binary64)
    (scope : Scope) : Prop where
  field : scope.field = condition.field
  type : scope.type = compiler.types scope.field
  boost : scope.boost = boost
  filter : scope.filter = compiler.settings.filterContext

/-- A scope that is found for a condition is the one that it resolves to. -/
theorem resolves_of_scope
    (success : compiler.scope condition boost = .ok scope) :
    compiler.Resolves condition boost scope := by
  obtain ⟨type, resolves, success⟩ := exists_of_bind_eq_ok success
  cases success
  refine ⟨rfl, ?_, rfl, rfl⟩
  unfold Schema.resolve at resolves
  unfold types
  dsimp only
  split at resolves <;> cases resolves <;> simp_all

/-- A value that is read for a field is of the kind of its type. -/
theorem isOf_of_coerce
    {field text : String}
    {value : Value}
    (success : compiler.schema.coerce field text = .ok value) :
    value.isOf (compiler.types field).fieldType = true := by
  have declared : (compiler.schema.fieldType? field).getD .keyword =
      (compiler.types field).fieldType := by
    unfold types Schema.fieldType?
    cases compiler.schema.find? field <;> rfl
  unfold Schema.coerce at success
  split at success
  · rename_i read
    cases success
    exact declared ▸ Value.isOf_of_read read
  · cases success

/-- Values that are read for a field list values of its type. -/
theorem lists_of_mapM_coerce
    {texts : List String}
    {values : List Value}
    (typed : scope.type = compiler.types scope.field)
    (some : texts ≠ [])
    (success : texts.mapM (compiler.schema.coerce scope.field) = .ok values) :
    scope.Lists compiler.types values := by
  have reads := forall₂_of_mapM_eq_ok success
  refine ⟨typed, ?_, ?_⟩
  · rintro rfl
    cases reads
    exact some rfl
  · rw [typed]
    clear success some
    induction reads with
    | nil => exact List.forall_mem_nil _
    | cons read _ hypothesis =>
        exact List.forall_mem_cons.mpr ⟨isOf_of_coerce read, hypothesis⟩

section Ranges

variable {range result : Range} {text : String}

/-- An open range has no bounds. -/
theorem openRange_eq_ok (success : compiler.openRange scope = .ok range) :
    ∃ timeZone, range =
      { Range.unbounded scope with timeZone := timeZone } := by
  unfold openRange at success
  split at success
  · cases success
  · cases success
    exact ⟨_, rfl⟩

/-- A lower bound that is set is of the kind of the field, and nothing else
changes. -/
theorem lowerBound_eq_ok
    {comparison : LowerComparison}
    (typed : range.type = compiler.types range.field)
    (isOf : LowerBound.IsOf range.fieldType range.lower)
    (success : compiler.lowerBound range comparison text = .ok result) :
    ∃ lower, result = { range with lower := lower } ∧
      LowerBound.IsOf range.fieldType lower := by
  unfold lowerBound at success
  split at success
  · cases success
    exact ⟨range.lower, rfl, isOf⟩
  · obtain ⟨value, reads, success⟩ := exists_of_bind_eq_ok success
    cases success
    refine ⟨_, rfl, ?_⟩
    intro bound isBound
    split at isBound
    · cases isBound
    · cases isBound
      rw [Range.fieldType, typed]
      exact isOf_of_coerce reads

/-- An upper bound that is set is of the kind of the field, and nothing else
changes. -/
theorem upperBound_eq_ok
    {comparison : UpperComparison}
    (typed : range.type = compiler.types range.field)
    (isOf : UpperBound.IsOf range.fieldType range.upper)
    (success : compiler.upperBound range comparison text = .ok result) :
    ∃ upper, result = { range with upper := upper } ∧
      UpperBound.IsOf range.fieldType upper := by
  unfold upperBound at success
  split at success
  · cases success
    exact ⟨range.upper, rfl, isOf⟩
  · obtain ⟨value, reads, success⟩ := exists_of_bind_eq_ok success
    cases success
    refine ⟨_, rfl, ?_⟩
    intro bound isBound
    split at isBound
    · cases isBound
    · cases isBound
      rw [Range.fieldType, typed]
      exact isOf_of_coerce reads

end Ranges

theorem Obeys.type_eq
    (obeys : compiler.Obeys discipline)
    (typed : scope.type = compiler.types scope.field) :
    scope.type = discipline.types scope.field := by
  rw [obeys.types, typed]

/-- The ranges that conditions of a scope compile to: bounds are of the kind of
the field, and leave a place for a value. -/
structure Ranges (scope : Scope) (range : Range) : Prop where
  scope : range.toScope = scope
  isOf : range.IsOf
  nonempty : range.isEmpty = false

section Leaves

variable {node : Node} (typed : scope.type = compiler.types scope.field)
include typed

/-- A range that is opened and bounded from below is one of a condition. -/
theorem ranges_of_lowerBound
    {range result : Range}
    {comparison : LowerComparison}
    {text : String}
    (opened : compiler.openRange scope = .ok range)
    (success : compiler.lowerBound range comparison text = .ok result) :
    Ranges scope result := by
  obtain ⟨timeZone, rfl⟩ := openRange_eq_ok opened
  obtain ⟨lower, rfl, isOf⟩ :=
    lowerBound_eq_ok typed (LowerBound.isOf_none _) success
  refine ⟨rfl, ⟨isOf, UpperBound.isOf_none _⟩, ?_⟩
  cases lower <;> rfl

/-- A range that is opened and bounded from above is one of a condition. -/
theorem ranges_of_upperBound
    {range result : Range}
    {comparison : UpperComparison}
    {text : String}
    (opened : compiler.openRange scope = .ok range)
    (success : compiler.upperBound range comparison text = .ok result) :
    Ranges scope result := by
  obtain ⟨timeZone, rfl⟩ := openRange_eq_ok opened
  obtain ⟨upper, rfl, isOf⟩ :=
    upperBound_eq_ok typed (UpperBound.isOf_none _) success
  exact ⟨rfl, ⟨LowerBound.isOf_none _, isOf⟩, rfl⟩

omit typed in
/-- A condition with one bound compiles to a range. -/
theorem exists_ranges_of_halfRange
    {bound : Range → String → Except Error Range}
    (ranges : ∀ range text result, compiler.openRange scope = .ok range →
      bound range text = .ok result → Ranges scope result)
    (success : compiler.halfRange condition scope bound = .ok node) :
    ∃ range, node = .leaf (.range range) ∧ Ranges scope range := by
  obtain ⟨text, _, success⟩ := exists_of_bind_eq_ok success
  obtain ⟨range, opened, success⟩ := exists_of_bind_eq_ok success
  obtain ⟨result, bounded, success⟩ := exists_of_bind_eq_ok success
  cases success
  exact ⟨result, rfl, ranges range text result opened bounded⟩

/-- A condition with two bounds compiles to a range. -/
theorem exists_ranges_of_betweenRange
    {leftInclusive rightInclusive : Bool}
    (success : compiler.betweenRange condition scope leftInclusive
      rightInclusive = .ok node) :
    ∃ range, node = .leaf (.range range) ∧ Ranges scope range := by
  unfold betweenRange at success
  split at success
  · obtain ⟨range, opened, success⟩ := exists_of_bind_eq_ok success
    obtain ⟨withLower, setsLower, success⟩ := exists_of_bind_eq_ok success
    obtain ⟨result, setsUpper, success⟩ := exists_of_bind_eq_ok success
    obtain ⟨_, valid, success⟩ := exists_of_bind_eq_ok success
    cases success
    obtain ⟨timeZone, rfl⟩ := openRange_eq_ok opened
    obtain ⟨lower, rfl, isOfLower⟩ :=
      lowerBound_eq_ok typed (LowerBound.isOf_none _) setsLower
    obtain ⟨upper, rfl, isOfUpper⟩ :=
      upperBound_eq_ok typed (UpperBound.isOf_none _) setsUpper
    refine ⟨_, rfl, rfl, ⟨isOfLower, isOfUpper⟩, ?_⟩
    rw [Bool.eq_false_iff]
    intro isEmpty
    rw [Range.validate, isEmpty] at valid
    cases valid
  · cases success

omit typed in
/-- What equality stands for, where there are values. -/
theorem equality_eq_of_some (some : condition.values.isEmpty = false) :
    compiler.equality condition scope =
      if condition.values.contains anyValue then
        .ok (.leaf (.presence ⟨scope.field, scope.filter⟩))
      else if scope.type.fieldType.isAnalyzed then
        Node.mergeAll .union
          (condition.values.map fun text =>
            .leaf (.fullText (fullText condition scope text)))
      else do
        let values ← condition.values.mapM (compiler.schema.coerce scope.field)
        return .leaf (ValueSet.ofValues scope values).leaf := by
  unfold equality
  rw [some]
  rfl

end Leaves

/-- What a condition may compile to with its weight. -/
inductive Yields (compiler : Compiler) (condition : Condition)
    (boost : Binary64) : Node → Prop
  | everything : Yields compiler condition boost (.leaf (.everything boost))
  | ids (comparison : condition.comparison = .ids)
    (some : condition.values ≠ []) :
      Yields compiler condition boost
        (.leaf (.ids (.ofValues boost condition.values)))
  | queryText (comparison : condition.comparison = .queryText)
    (text field : String) :
      Yields compiler condition boost
        (.leaf (.queryText ⟨text, some field, boost⟩))
  | presence {scope : Scope}
    (resolves : compiler.Resolves condition boost scope)
      (reads : condition.field? = some condition.field) :
      Yields compiler condition boost
        (.leaf (.presence ⟨scope.field, scope.filter⟩))
  | fullText {scope : Scope} {node : Node}
    (resolves : compiler.Resolves condition boost scope)
      (merges : Node.mergeAll .union (condition.values.map fun text =>
        .leaf (.fullText (fullText condition scope text))) = .ok node) :
      Yields compiler condition boost node
  | values {scope : Scope} {values : List Value}
      (resolves : compiler.Resolves condition boost scope)
      (lists : scope.Lists compiler.types values) :
      Yields compiler condition boost
        (.leaf (ValueSet.ofValues scope values).leaf)
  | range {scope : Scope} {range : Range}
    (resolves : compiler.Resolves condition boost scope)
      (reads : condition.field? = some condition.field)
      (ranges : Ranges scope range) :
      Yields compiler condition boost (.leaf (.range range))
  | phrase {phrase : Phrase}
    (resolves : compiler.Resolves condition boost phrase.toScope) :
      Yields compiler condition boost (.leaf (.phrase phrase))
  | pattern {pattern : Pattern}
    (resolves : compiler.Resolves condition boost pattern.toScope)
      (valid : pattern.matcher.validate = .ok ()) :
      Yields compiler condition boost (.leaf (.pattern pattern))

section Yielding

variable {node : Node} (resolves : compiler.Resolves condition boost scope)
include resolves

/-- What equality compiles to. -/
theorem yields_of_equality
    (reads : condition.field? = some condition.field)
    (success : compiler.equality condition scope = .ok node) :
    compiler.Yields condition boost node := by
  cases some : condition.values.isEmpty with
  | true =>
      rw [equality, some] at success
      cases success
  | false =>
      rw [equality_eq_of_some some] at success
      split at success
      · cases success
        exact .presence resolves reads
      · split at success
        · exact .fullText resolves success
        · obtain ⟨values, readsValues, success⟩ := exists_of_bind_eq_ok success
          cases success
          exact .values resolves
            (lists_of_mapM_coerce resolves.type
              (List.isEmpty_eq_false_iff.mp some) readsValues)

/-- What a phrase compiles to. -/
theorem yields_of_phrase
    {openEnded : Bool}
    (success : phrase condition scope openEnded = .ok node) :
    compiler.Yields condition boost node := by
  obtain ⟨text, _, success⟩ := exists_of_bind_eq_ok success
  cases success
  exact .phrase resolves

/-- What a pattern compiles to. -/
theorem yields_of_pattern
    {matcher : String → Matcher}
    (success : compiler.pattern condition scope matcher = .ok node) :
    compiler.Yields condition boost node := by
  obtain ⟨text, _, success⟩ := exists_of_bind_eq_ok success
  obtain ⟨_, valid, success⟩ := exists_of_bind_eq_ok success
  cases success
  exact .pattern resolves valid

end Yielding

/-- A condition that compiles has a weight, and compiles to what conditions may
compile to. -/
theorem exists_yields_of_compileCondition
    {node : Node}
    (success : compiler.compileCondition condition = .ok node) :
    ∃ boost, Compiler.boost condition = .ok boost ∧
      compiler.Yields condition boost node := by
  unfold compileCondition at success
  obtain ⟨boost, weighs, success⟩ := exists_of_bind_eq_ok success
  refine ⟨boost, weighs, ?_⟩
  cases comparison : condition.comparison <;> rw [comparison] at success <;>
    dsimp only at success
  case everything =>
    cases success
    exact .everything
  case ids =>
    unfold ids at success
    split at success
    · cases success
    · rename_i some
      cases success
      exact .ids comparison (by simpa using some)
  case queryText =>
    obtain ⟨text, _, success⟩ := exists_of_bind_eq_ok success
    cases success
    exact .queryText comparison text _
  all_goals
    have reads : condition.field? = some condition.field := by
      rw [Condition.field?, comparison]
    obtain ⟨scope, isScope, success⟩ := exists_of_bind_eq_ok success
    have resolves := resolves_of_scope isScope
  case equal => exact yields_of_equality resolves reads success
  case present =>
    cases success
    exact .presence resolves reads
  case between =>
    obtain ⟨range, rfl, ranges⟩ :=
      exists_ranges_of_betweenRange resolves.type success
    exact .range resolves reads ranges
  case gt | gte =>
    obtain ⟨range, rfl, ranges⟩ := exists_ranges_of_halfRange
      (fun _ _ _ => ranges_of_lowerBound resolves.type) success
    exact .range resolves reads ranges
  case lt | lte =>
    obtain ⟨range, rfl, ranges⟩ := exists_ranges_of_halfRange
      (fun _ _ _ => ranges_of_upperBound resolves.type) success
    exact .range resolves reads ranges
  case phrase | phrasePrefix => exact yields_of_phrase resolves success
  all_goals exact yields_of_pattern resolves success

/-- A compiled condition is well-formed. -/
theorem wellFormed_compileCondition
    {node : Node}
    (obeys : compiler.Obeys discipline)
    (suits : condition.Suits discipline)
    (success : compiler.compileCondition condition = .ok node) :
    node.WellFormed (Leaf.Keeps discipline) := by
  have ordered : ∀ {boost scope}, compiler.Resolves condition boost scope →
      condition.field? = some condition.field →
        discipline.ordered scope.field :=
    fun resolves reads => resolves.field ▸ suits.ordered condition.field reads
  obtain ⟨boost, _, yields⟩ := exists_yields_of_compileCondition success
  cases yields with
  | everything => exact .leaf rfl trivial
  | ids comparison => exact .leaf rfl (suits.ids comparison)
  | queryText comparison => exact .leaf rfl (suits.queryText comparison _)
  | presence resolves reads =>
      exact .leaf rfl (obeys.probed _ (ordered resolves reads))
  | fullText resolves merges =>
      refine (Node.isJoinAll_of_mergeAll obeys.tight ?_ merges).formed
      intro node isNode
      obtain ⟨text, _, rfl⟩ := List.mem_map.mp isNode
      exact .leaf rfl (obeys.type_eq resolves.type)
  | values resolves lists =>
      rw [← obeys.types] at lists
      exact lists.asks_ofValues.formed
  | range resolves reads ranges =>
      cases ranges.scope
      exact .leaf rfl ⟨obeys.type_eq resolves.type, ordered resolves reads,
        ranges.isOf, fun _ => ranges.nonempty⟩
  | phrase resolves => exact .leaf rfl (obeys.type_eq resolves.type)
  | pattern resolves => exact .leaf rfl (obeys.type_eq resolves.type)

end Compiler
end SearchQuery
