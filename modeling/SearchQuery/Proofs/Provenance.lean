import SearchQuery.Proofs.FailureCauses
import SearchQuery.Proofs.Agreement

/-!
# Where weights come from

Every weight in a compiled tree is that of a leaf with the same key that some
condition of the expression compiles to, and every leaf of a kind that tells
whether it is scored tells what the settings ask for. If all conditions ask for
one weight, compilation never fails for a conflict of weights.
-/

namespace SearchQuery

/-- A leaf stands somewhere in a tree. -/
inductive Leaf.IsIn (leaf : Leaf) : Node → Prop
  | self : IsIn leaf (.leaf leaf)
  | member {clauses : Clauses Node} {occur : Occur} {node : Node}
      (isMember : node ∈ clauses.nodes occur) (isIn : IsIn leaf node) :
        IsIn leaf (.clauses clauses)

/-- A condition stands somewhere in an expression. -/
inductive Condition.IsIn (condition : Condition) : Expr → Prop
  | self : IsIn condition (.condition condition)
  | all {parts : List Expr} {part : Expr} (isPart : part ∈ parts)
    (isIn : IsIn condition part) :
      IsIn condition (.all parts)
  | any {parts : List Expr} {part : Expr} (isPart : part ∈ parts)
    (isIn : IsIn condition part) :
      IsIn condition (.any parts)
  | not {part : Expr} (isIn : IsIn condition part) : IsIn condition (.not part)

/-- What is true of the conditions that stand in an expression is true of every
condition of it. -/
theorem Expr.every_of_isIn
    {property : Condition → Prop} :
    ∀ expression : Expr,
      (∀ condition, condition.IsIn expression → property condition) →
      expression.Every property
  | .condition content, has => .condition (has content .self)
  | .all parts, has =>
      .all fun part isPart => every_of_isIn part fun condition isIn =>
        has condition (.all isPart isIn)
  | .any parts, has =>
      .any fun part isPart => every_of_isIn part fun condition isIn =>
        has condition (.any isPart isIn)
  | .not part, has =>
      .not (every_of_isIn part fun condition isIn => has condition (.not isIn))

namespace Node.IsNormal

variable {law : Leaf → Prop} {node : Node}

/-- The leaves of a tree in normal form are in normal form. -/
theorem leaf_of_isIn
    {leaf : Leaf}
    (normal : node.IsNormal law)
    (isIn : leaf.IsIn node) :
    (Node.leaf leaf).IsNormal law := by
  induction isIn with
  | self => exact normal
  | member isMember _ hypothesis =>
      exact hypothesis (normal.areNormal.members _ _ isMember).normal

theorem lawful_of_isIn
    {leaf : Leaf}
    (normal : node.IsNormal law)
    (isIn : leaf.IsIn node) :
    law leaf :=
  (normal.leaf_of_isIn isIn).lawful_leaf

/-- A tree in normal form is so under any law that its leaves obey. -/
theorem of_isIn
    {other : Leaf → Prop}
    (normal : node.IsNormal law)
    (lawful : ∀ leaf, leaf.IsIn node → law leaf → other leaf) :
    node.IsNormal other := by
  induction normal with
  | @leaf content condition obeys =>
      exact .leaf condition (lawful content .self obeys)
  | clauses shaped several low placed members hypothesis =>
      exact .clauses shaped several low placed fun occur node isMember =>
        hypothesis occur node isMember fun leaf isIn =>
          lawful leaf (.member isMember isIn)

end Node.IsNormal

namespace Leaf

/-- The leaf has a weight of its own. -/
def isWeighted : Leaf → Bool
  | .presence _ | .nothing => false
  | _ => true

/-- Whether matches go without a score, for a leaf of a kind that tells. -/
def filter? : Leaf → Option Bool
  | .presence content => some content.filter
  | leaf => leaf.scope?.map (·.filter)

/-- The weight of a leaf is one that its key may have, and the leaf is scored or
not as is asked for, as far as it has a weight and tells whether it is
scored. -/
structure Bears (weighs : String → Binary64 → Prop) (filter : Bool)
    (leaf : Leaf) : Prop where
  weight : leaf.isWeighted = true → weighs leaf.key leaf.boost
  scoring : ∀ flag, leaf.filter? = some flag → flag = filter

variable {weighs : String → Binary64 → Prop} {filter : Bool}
  {leaf result : Leaf}

theorem isWeighted_and_filter?_of_scope?
    {scope : Scope}
    (isScope : leaf.scope? = some scope) :
    leaf.isWeighted = true ∧ leaf.filter? = some scope.filter := by
  cases leaf <;> cases isScope <;> exact ⟨rfl, rfl⟩

/-- A leaf that is recast has a weight if it had one, and tells the same of
scoring. -/
theorem Recasts.isWeighted_and_filter?
    (recast : leaf.Recasts result)
    (filled : leaf.IsFilled) :
    result.isWeighted = leaf.isWeighted ∧ result.filter? = leaf.filter? := by
  have byScope : ∀ scope, leaf.scope? = some scope →
      result.isWeighted = leaf.isWeighted ∧ result.filter? = leaf.filter? := by
    intro scope isScope
    have before := isWeighted_and_filter?_of_scope? isScope
    have after :=
      isWeighted_and_filter?_of_scope?
        ((recast.isAkin filled).scope.trans isScope)
    exact ⟨after.1.trans before.1.symm, after.2.trans before.2.symm⟩
  cases recast with
  | self => exact ⟨rfl, rfl⟩
  | values exact nonempty => exact byScope _ (scope?_of_exactValues? exact).1
  | smallest set => exact byScope _ rfl
  | range sameScope =>
      exact ⟨rfl, congrArg (fun scope : Scope => some scope.filter) sameScope⟩
  | ids nonempty => exact ⟨rfl, rfl⟩

/-- What leaves bear lasts. -/
theorem isLasting_bears (weighs : String → Binary64 → Prop) (filter : Bool) :
    IsLasting (Bears weighs filter) where
  recast leaf result recast filled bears := by
    have akin := recast.isAkin filled
    obtain ⟨isWeighted, sameFilter⟩ := recast.isWeighted_and_filter? filled
    constructor
    · rw [isWeighted, akin.key, akin.boost]
      exact bears.weight
    · rw [sameFilter]
      exact bears.scoring
  presence range bears :=
    ⟨Bool.noConfusion, fun flag isFlag => bears.scoring flag isFlag⟩

/-- A leaf with a scope bears what the scope does. -/
theorem bears_of_scope?
    {scope : Scope}
    (isScope : leaf.scope? = some scope)
    (weight : weighs leaf.key scope.boost)
    (scoring : scope.filter = filter) :
    leaf.Bears weighs filter := by
  have isBoost : leaf.boost = scope.boost := by
    cases leaf <;> cases isScope <;> rfl
  refine ⟨fun _ => isBoost ▸ weight, fun flag isFlag => ?_⟩
  rw [(isWeighted_and_filter?_of_scope? isScope).2] at isFlag
  cases isFlag
  exact scoring

/-- A leaf of a kind that does not tell whether it is scored bears its
weight. -/
theorem bears_of_filter?_eq_none
    (unscored : leaf.filter? = none)
    (weight : weighs leaf.key leaf.boost) :
    leaf.Bears weighs filter := by
  refine ⟨fun _ => weight, fun flag isFlag => ?_⟩
  rw [unscored] at isFlag
  cases isFlag

end Leaf

namespace Compiler

variable {compiler : Compiler} {condition : Condition} {scope : Scope}
  {boost : Binary64}
  {node : Node}

/-- The weight of a condition is the one that it asks for, and is a number. -/
theorem boost_eq_ok (success : Compiler.boost condition = .ok boost) :
    boost = condition.modifiers.boost.getD .one ∧ boost.isNaN = false := by
  unfold Compiler.boost at success
  dsimp only at success
  split at success
  · cases success
  · rename_i valid
    cases success
    refine ⟨rfl, ?_⟩
    simp only [Bool.or_eq_true, Bool.not_eq_true', not_or, Bool.not_eq_false,
      Binary64.isFinite, decide_eq_true_eq] at valid
    simp only [Binary64.isNaN, decide_eq_false_iff_not, Nat.not_lt]
    exact Nat.le_of_lt valid.1

/-- What compiled leaves obey that bear a weight: they keep to the loose
discipline of the compiler, are neat, and are scored as the settings say. -/
def LeafLaw (compiler : Compiler) (weighs : String → Binary64 → Prop)
    (leaf : Leaf) : Prop :=
  leaf.Keeps compiler.looseDiscipline ∧ leaf.IsNeat ∧
    leaf.Bears weighs compiler.settings.filterContext

theorem isStable_leafLaw (compiler : Compiler)
    (weighs : String → Binary64 → Prop) :
    Leaf.IsStable (compiler.LeafLaw weighs) :=
  have obeys := compiler.obeys_looseDiscipline
  (Leaf.isLasting_isNeat.and (Leaf.isLasting_bears weighs _)).isStable
    obeys.tight obeys.probed

/-- The leaves of a compiled condition have the weight of the condition. -/
theorem isNormal_leafLaw_compileCondition
    (success : compiler.compileCondition condition = .ok node) :
    ∃ boost, Compiler.boost condition = .ok boost ∧
      node.IsNormal (compiler.LeafLaw fun _ weight => weight = boost) := by
  have normal := isNormal_compileCondition compiler.obeys_looseDiscipline
    ⟨fun _ _ => trivial, fun _ => trivial, fun _ _ => trivial⟩ success
  obtain ⟨boost, weighs, yields⟩ := exists_yields_of_compileCondition success
  refine ⟨boost, weighs, ?_⟩
  have isNormal : ∀ leaf : Leaf, node = .leaf leaf →
      leaf.Bears (fun _ weight => weight = boost)
        compiler.settings.filterContext →
        node.IsNormal (compiler.LeafLaw fun _ weight => weight = boost) := by
    rintro leaf rfl bears
    exact .leaf normal.condition_leaf ⟨normal.lawful_leaf.1,
      normal.lawful_leaf.2, bears⟩
  have bears : ∀ {scope : Scope} {leaf : Leaf},
      compiler.Resolves condition boost scope →
      leaf.scope? = some scope →
        leaf.Bears (fun _ weight => weight = boost)
          compiler.settings.filterContext :=
    fun resolves isScope =>
      Leaf.bears_of_scope? isScope resolves.boost resolves.filter
  cases yields with
  | everything | ids | queryText =>
      exact isNormal _ rfl (Leaf.bears_of_filter?_eq_none rfl rfl)
  | presence resolves =>
      exact isNormal _ rfl
        ⟨Bool.noConfusion, fun flag isFlag =>
          (Option.some.inj isFlag).symm.trans resolves.filter⟩
  | fullText resolves merges =>
      refine Node.isNormal_of_mergeAll (compiler.isStable_leafLaw _)
        (fun member isMember => ?_)
        merges
      obtain ⟨text, _, rfl⟩ := List.mem_map.mp isMember
      exact .leaf rfl ⟨resolves.type, trivial, bears resolves rfl⟩
  | @values scope values resolves lists =>
      have nonempty : (ValueSet.ofValues scope values).values ≠ [] :=
        ValueSet.arrange_ne_nil scope lists.nonempty
      rcases ValueSet.leaf_of_values_ne_nil nonempty with
        ⟨value, isTerm⟩ | ⟨isSet, _⟩
      · exact isNormal _ (congrArg _ isTerm) (bears resolves rfl)
      · exact isNormal _ (congrArg _ isSet) (bears resolves rfl)
  | range resolves _ ranges =>
      exact isNormal _ rfl (bears resolves (congrArg some ranges.scope))
  | phrase resolves => exact isNormal _ rfl (bears resolves rfl)
  | pattern resolves => exact isNormal _ rfl (bears resolves rfl)

/-- The leaves of a compiled expression obey what those of its conditions
obey. -/
theorem isNormal_leafLaw_compile
    {weighs : String → Binary64 → Prop}
    {expression : Expr}
    (given : ∀ condition node, condition.IsIn expression →
      compiler.compileCondition condition = .ok node → ∀ leaf : Leaf,
        leaf.IsIn node →
        leaf.isWeighted = true → weighs leaf.key leaf.boost)
    (success : compiler.compile expression = .ok node) :
    node.IsNormal (compiler.LeafLaw weighs) := by
  refine isNormal_of_compile (compiler.isStable_leafLaw weighs) ?_ success
  refine expression.every_of_isIn fun condition isCondition node compiles => ?_
  obtain ⟨boost, _, normal⟩ := isNormal_leafLaw_compileCondition compiles
  refine normal.of_isIn fun leaf isIn law =>
    ⟨law.1, law.2.1, ?_, law.2.2.scoring⟩
  exact given condition node isCondition compiles leaf isIn

/-- Some condition of an expression compiles to a tree with a leaf that has a
key and a weight. -/
def Supplies (compiler : Compiler) (expression : Expr) (key : String)
    (weight : Binary64) : Prop :=
  ∃ (condition : Condition) (node : Node) (origin : Leaf),
    condition.IsIn expression ∧
    compiler.compileCondition condition = .ok node ∧ origin.IsIn node ∧
    origin.isWeighted = true ∧ key = origin.key ∧
      weight.equals origin.boost = true

/-- Weighted leaves of a compiled tree have the keys and weights of leaves that
single conditions compile to, and leaves are scored as the settings say. -/
theorem isNormal_supplies
    {expression : Expr}
    (success : compiler.compile expression = .ok node) :
    node.IsNormal (compiler.LeafLaw (compiler.Supplies expression)) := by
  refine isNormal_leafLaw_compile
    (fun condition node isCondition compiles leaf isIn weighted => ?_)
    success
  obtain ⟨boost, weighs, normal⟩ := isNormal_leafLaw_compileCondition compiles
  have isBoost := (normal.lawful_of_isIn isIn).2.2.weight weighted
  refine ⟨condition, node, leaf, isCondition, compiles, isIn, weighted, rfl, ?_⟩
  simp [isBoost, Binary64.equals, (boost_eq_ok weighs).2]

end Compiler

/-- The error is a conflict of weights. -/
def Error.isWeightConflict : Error → Bool
  | .boostConflict .. => true
  | _ => false

/-- An outcome is no conflict of weights. -/
abbrev AvoidsWeightConflict {α : Type} (outcome : Except Error α) : Prop :=
  FailsOnly (fun error => error.isWeightConflict = false) outcome

/-- Leaves with one weight merge without a conflict of weights. -/
theorem Leaf.avoidsWeightConflict_merge
    {compiler : Compiler}
    (weight : Binary64)
    (operation : MergeOperation)
    (a b : Leaf)
    (normalA : (Node.leaf a).IsNormal (compiler.LeafLaw fun _ other =>
      other.equals weight = true))
    (normalB : (Node.leaf b).IsNormal
      (compiler.LeafLaw fun _ other => other.equals weight = true)) :
    AvoidsWeightConflict (merge operation a b) := by
  intro error failure
  have narrow := isBroad_eq_false_of_merge_eq_error failure
  have weighs : ∀ {leaf : Leaf}, leaf.isBroad = false →
      (Node.leaf leaf).IsNormal (compiler.LeafLaw fun _ other =>
        other.equals weight = true) →
        leaf.boost.equals weight = true := by
    intro leaf narrow normal
    refine normal.lawful_leaf.2.2.weight ?_
    have condition := normal.condition_leaf
    cases leaf
    case presence content => cases narrow
    case nothing => cases condition
    all_goals rfl
  have outcome := outcome_merge operation a b
  rw [failure] at outcome
  cases outcome with
  | weights sameWording differ =>
      have weightA := weighs narrow.1 normalA
      have weightB := weighs narrow.2 normalB
      rw [Binary64.equals_of_equals weightA weightB,
        Binary64.equals_of_equals weightB weightA] at differ
      rcases differ with differ | differ <;> cases differ
  | kinds unlike => rfl
  | pattern given refused =>
      rcases given with rfl | rfl
      · obtain ⟨holds, meaning⟩ := normalA.lawful_leaf.2.1
        rw [meaning] at refused
        cases refused
      · obtain ⟨holds, meaning⟩ := normalB.lawful_leaf.2.1
        rw [meaning] at refused
        cases refused
  | exclusion isInter isExclusion => cases error <;>
      first | rfl | cases isExclusion

namespace Compiler

variable {compiler : Compiler} {condition : Condition} {scope : Scope}
  {boost : Binary64}

theorem avoidsWeightConflict_boost :
    AvoidsWeightConflict (Compiler.boost condition) := by
  unfold Compiler.boost
  dsimp only
  split
  · exact .error rfl
  · exact .ok _

/-- The scope of a condition is refused without a conflict of weights. -/
theorem avoidsWeightConflict_scope :
    AvoidsWeightConflict (compiler.scope condition boost) := by
  refine .bind ?_ fun _ _ => .ok _
  unfold Schema.resolve
  split
  · exact .ok _
  · exact .ok _
  · exact .error rfl

theorem avoidsWeightConflict_coerce (field text : String) :
    AvoidsWeightConflict (compiler.schema.coerce field text) := by
  unfold Schema.coerce
  split
  · exact .ok _
  · exact .error rfl

theorem avoidsWeightConflict_singleValue :
    AvoidsWeightConflict (singleValue condition) := by
  unfold singleValue
  split
  · exact .ok _
  · exact .error rfl

section Ranges

variable {range : Range} {text : String}

theorem avoidsWeightConflict_lowerBound (comparison : LowerComparison) :
    AvoidsWeightConflict (compiler.lowerBound range comparison text) := by
  unfold lowerBound
  split
  · exact .ok _
  · exact .bind (avoidsWeightConflict_coerce range.field text) fun _ _ => .ok _

theorem avoidsWeightConflict_upperBound (comparison : UpperComparison) :
    AvoidsWeightConflict (compiler.upperBound range comparison text) := by
  unfold upperBound
  split
  · exact .ok _
  · exact .bind (avoidsWeightConflict_coerce range.field text) fun _ _ => .ok _

theorem avoidsWeightConflict_openRange :
    AvoidsWeightConflict (compiler.openRange scope) := by
  unfold openRange
  split
  · exact .error rfl
  · exact .ok _

theorem avoidsWeightConflict_halfRange
    {bound : Range → String → Except Error Range}
    (bounds : ∀ range text, AvoidsWeightConflict (bound range text)) :
    AvoidsWeightConflict (compiler.halfRange condition scope bound) :=
  .bind avoidsWeightConflict_singleValue fun text _ =>
    .bind avoidsWeightConflict_openRange fun range _ =>
      .bind (bounds range text) fun _ _ => .ok _

/-- A range with two bounds is refused without a conflict of weights. -/
theorem avoidsWeightConflict_betweenRange
    (leftInclusive rightInclusive : Bool) :
    AvoidsWeightConflict
      (compiler.betweenRange condition scope leftInclusive rightInclusive) := by
  unfold betweenRange
  split
  · refine .bind avoidsWeightConflict_openRange fun _ _ =>
      .bind (avoidsWeightConflict_lowerBound _) fun _ _ =>
        .bind (avoidsWeightConflict_upperBound _) fun range _ =>
          .bind ?_ fun _ _ => .ok _
    unfold Range.validate
    split
    · exact .error rfl
    · exact .ok _
  · exact .error rfl

end Ranges

/-- A pattern is refused without a conflict of weights. -/
theorem avoidsWeightConflict_pattern (matcher : String → Matcher) :
    AvoidsWeightConflict (compiler.pattern condition scope matcher) := by
  refine .bind avoidsWeightConflict_singleValue fun text _ =>
    .bind ?_ fun _ _ => .ok _
  have expression :
      AvoidsWeightConflict ((matcher text).expression.map fun _ => ()) := by
    refine .map ?_ _
    unfold Matcher.expression
    split
    · exact .ok _
    · exact .error rfl
  unfold Matcher.validate
  split
  · exact expression
  · exact expression
  · exact .ok _

/-- Equality is refused without a conflict of weights: the texts that it unites
have one weight. -/
theorem avoidsWeightConflict_equality
    (resolves : compiler.Resolves condition boost scope)
    (number : boost.isNaN = false) :
    AvoidsWeightConflict (compiler.equality condition scope) := by
  cases some : condition.values.isEmpty with
  | true =>
      rw [equality, some]
      exact .error rfl
  | false =>
      rw [equality_eq_of_some some]
      split
      · exact .ok _
      · split
        · have weight : scope.boost.equals boost = true := by
            simp [resolves.boost, Binary64.equals, number]
          refine Node.failsOnly_mergeAll (compiler.isStable_leafLaw _)
            (Leaf.avoidsWeightConflict_merge boost) rfl fun node isNode => ?_
          obtain ⟨text, _, rfl⟩ := List.mem_map.mp isNode
          exact .leaf rfl
            ⟨resolves.type, trivial,
              Leaf.bears_of_scope? rfl weight resolves.filter⟩
        · exact .bind
            (.mapM fun text _ => avoidsWeightConflict_coerce scope.field text)
            fun _ _ => .ok _

/-- A condition is refused without a conflict of weights. -/
theorem avoidsWeightConflict_compileCondition :
    AvoidsWeightConflict (compiler.compileCondition condition) := by
  unfold compileCondition
  refine .bind avoidsWeightConflict_boost fun boost weighs => ?_
  cases condition.comparison <;> dsimp only
  case everything => exact .ok _
  case ids =>
    unfold ids
    split
    · exact .error rfl
    · exact .ok _
  case queryText =>
    exact .bind avoidsWeightConflict_singleValue fun _ _ => .ok _
  all_goals refine .bind avoidsWeightConflict_scope fun scope isScope => ?_
  case equal =>
    exact avoidsWeightConflict_equality (resolves_of_scope isScope)
      (boost_eq_ok weighs).2
  case present => exact .ok _
  case between => exact avoidsWeightConflict_betweenRange _ _
  case gt | gte =>
    exact avoidsWeightConflict_halfRange fun _ _ =>
      avoidsWeightConflict_lowerBound _
  case lt | lte =>
    exact avoidsWeightConflict_halfRange fun _ _ =>
      avoidsWeightConflict_upperBound _
  case phrase | phrasePrefix =>
    exact .bind avoidsWeightConflict_singleValue fun _ _ => .ok _
  all_goals exact avoidsWeightConflict_pattern _

/-- Conditions that ask for one weight come together without a conflict of
weights. -/
theorem avoidsWeightConflict_compile
    {expression : Expr}
    {weight : Binary64}
    (asks : ∀ condition : Condition, condition.IsIn expression →
      (condition.modifiers.boost.getD .one).same weight = true) :
    AvoidsWeightConflict (compiler.compile expression) := by
  refine failsOnly_compile (compiler.isStable_leafLaw _)
    (Leaf.avoidsWeightConflict_merge weight) (fun _ => rfl) ?_
  refine expression.every_of_isIn fun condition isCondition => ?_
  refine ⟨avoidsWeightConflict_compileCondition, fun node compiles => ?_⟩
  obtain ⟨boost, weighs, normal⟩ := isNormal_leafLaw_compileCondition compiles
  obtain ⟨isBoost, number⟩ := boost_eq_ok weighs
  have same := asks condition isCondition
  rw [← isBoost] at same
  refine normal.mono fun leaf law =>
    ⟨law.1, law.2.1, fun weighted => ?_, law.2.2.scoring⟩
  rw [law.2.2.weight weighted, Binary64.equals, number]
  exact same

/-- Every weighted leaf of a compiled tree has the key and the weight of a leaf
that a single condition compiles to, and every leaf of a kind that tells whether
it is scored tells what the settings ask for. Compilation does not fail for a
conflict of weights where all conditions ask for one weight. -/
theorem weights_of_compile (compiler : Compiler) (expression : Expr) :
    (∀ node, compiler.compile expression = .ok node → ∀ leaf : Leaf,
      leaf.IsIn node →
      (leaf.isWeighted = true →
        compiler.Supplies expression leaf.key leaf.boost) ∧
        ∀ flag, leaf.filter? = some flag →
          flag = compiler.settings.filterContext) ∧
    ∀ weight, (∀ condition : Condition, condition.IsIn expression →
        (condition.modifiers.boost.getD .one).same weight = true) →
      ∀ field left right, compiler.compile expression ≠
        .error (.boostConflict field left right) := by
  constructor
  · intro node success leaf isIn
    have bears := ((isNormal_supplies success).lawful_of_isIn isIn).2.2
    exact ⟨bears.weight, bears.scoring⟩
  · intro weight asks field left right failure
    cases avoidsWeightConflict_compile asks _ failure

/-- Two colors that are asked for with a double weight and without a score give
one set of values with both of these. -/
theorem weights_of_compile_amber_or_blue :
    let two : Binary64 := ⟨0x4000000000000000⟩
    let compiler : Compiler :=
      ⟨.empty, { Settings.standard with filterContext := true }⟩
    let color (name : String) :=
      Expr.condition ((Condition.equalTo "color" name).withBoost two)
    let colors := Expr.any [color "amber", color "blue"]
    let scope : Scope := ⟨"color", ⟨.keyword, false⟩, two, true⟩
    compiler.compile colors =
      .ok (.leaf (.valueSet ⟨scope, [.str "amber", .str "blue"]⟩)) ∧
      compiler.Supplies colors "color" two ∧
      ∀ field left right, compiler.compile colors ≠
        .error (.boostConflict field left right) := by
  have success :
      compile ⟨.empty, { Settings.standard with filterContext := true }⟩
      (.any
        [.condition
          ((Condition.equalTo "color" "amber").withBoost ⟨0x4000000000000000⟩),
        .condition
          ((Condition.equalTo "color" "blue").withBoost
            ⟨0x4000000000000000⟩)]) =
      .ok (.leaf
        (.valueSet ⟨⟨"color", ⟨.keyword, false⟩, ⟨0x4000000000000000⟩, true⟩,
        [.str "amber", .str "blue"]⟩)) := by
    with_unfolding_all rfl
  obtain ⟨leaves, conflicts⟩ := weights_of_compile _ _
  refine ⟨success, (leaves _ success _ .self).1 rfl,
    conflicts ⟨0x4000000000000000⟩ ?_⟩
  rintro condition (_ | _ | ⟨isPart, isIn⟩)
  simp only [List.mem_cons, List.not_mem_nil, or_false] at isPart
  rcases isPart with rfl | rfl <;> cases isIn <;> rfl

end Compiler
end SearchQuery
