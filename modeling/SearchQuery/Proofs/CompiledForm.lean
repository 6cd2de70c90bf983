import Mathlib.Data.String.Basic
import SearchQuery.Proofs.CompiledTrees
import SearchQuery.Proofs.NormalMerges

/-!
# The form of compiled trees

Every compiled tree is in normal form: a set of values or identifiers is no
larger and no smaller than it needs to be, and neither merges nor complements
leave a node that could be simpler.
-/

namespace SearchQuery

namespace IdSet

theorem ofValues_ne_nil
    (boost : Binary64)
    {values : List String}
    (nonempty : values ≠ []) :
    (ofValues boost values).values ≠ [] := by
  obtain ⟨id, isThere⟩ := List.exists_mem_of_ne_nil values nonempty
  exact List.ne_nil_of_mem (mem_insertAll.mpr (.inr isThere))

end IdSet

namespace Leaf

/-- A set of values has at least two of them, a set of identifiers lists some in
increasing order, and a pattern has a meaning. -/
def IsNeat : Leaf → Prop
  | .valueSet content => 2 ≤ content.values.length
  | .ids content => content.values ≠ [] ∧ content.values.Pairwise (· < ·)
  | .pattern content => ∃ holds, content.matcher.predicate = .ok holds
  | _ => True

/-- A set of values lists at least two in increasing order, a set of identifiers
lists some in increasing order, and a range leaves a place for a value. -/
def IsReduced : Leaf → Prop
  | .valueSet content =>
      2 ≤ content.values.length ∧ content.values.Pairwise fun a b =>
        content.order a b = .lt
  | .ids content => content.values ≠ [] ∧ content.values.Pairwise (· < ·)
  | .range content => content.isEmpty = false
  | _ => True

/-- A law lasts: it passes from a leaf to those that are recast from it, and
from a range to the presence of its field. -/
structure IsLasting (law : Leaf → Prop) : Prop where
  recast : ∀ leaf result : Leaf, leaf.Recasts result → leaf.IsFilled →
    law leaf → law result
  presence : ∀ range, law (.range range) →
    law (.presence ⟨range.field, range.filter⟩)

variable {leaf result : Leaf} {discipline : Discipline}

/-- A neat leaf that keeps to a discipline is reduced. -/
theorem IsNeat.isReduced
    (neat : leaf.IsNeat)
    (keeps : leaf.Keeps discipline)
    (tight : discipline.tight = true) :
    leaf.IsReduced := by
  cases leaf
  case valueSet content =>
    have set : content.Keeps discipline.types := keeps
    exact ⟨neat, set.arranged.increasing⟩
  case range content =>
    have range : content.Keeps discipline := keeps
    exact range.nonempty tight
  all_goals first | exact neat | trivial

theorem Keeps.isFilled (keeps : leaf.Keeps discipline) : leaf.IsFilled := by
  rintro set rfl
  exact ValueSet.Keeps.nonempty keeps

/-- The smallest leaf for some values is neat. -/
theorem isNeat_leaf {set : ValueSet} (nonempty : set.values ≠ []) :
    set.leaf.IsNeat := by
  rcases ValueSet.leaf_of_values_ne_nil nonempty with
    ⟨value, isTerm⟩ | ⟨isSet, several⟩
  · rw [isTerm]
    trivial
  · rw [isSet]
    exact several

/-- Neatness lasts. -/
theorem isLasting_isNeat : IsLasting IsNeat where
  recast leaf result recast filled neat := by
    cases recast with
    | self => exact neat
    | values exact nonempty =>
        apply isNeat_leaf
        exact ValueSet.arrange_ne_nil _ (nonempty (filled.values_ne_nil exact))
    | smallest set => exact isNeat_leaf (filled set rfl)
    | range sameScope => trivial
    | ids nonempty =>
        exact ⟨IdSet.ofValues_ne_nil _ (nonempty neat.1),
          IdSet.pairwise_insertAll .nil⟩
  presence _ _ := trivial

/-- Laws that last do so together. -/
theorem IsLasting.and
    {law other : Leaf → Prop}
    (lasting : IsLasting law)
    (otherLasting : IsLasting other) :
    IsLasting fun leaf => law leaf ∧ other leaf where
  recast leaf result recast filled both :=
    ⟨lasting.recast leaf result recast filled both.1,
      otherLasting.recast leaf result recast filled both.2⟩
  presence range both :=
    ⟨lasting.presence range both.1, otherLasting.presence range both.2⟩

end Leaf

section Stability

variable {law : Leaf → Prop} {discipline : Discipline}

/-- The members that are added to clauses are among them. -/
theorem Clauses.Adds.mem
    {clauses result : Clauses Node}
    {occur : Occur}
    {nodes : List Node}
    {node : Node}
    (adds : clauses.Adds occur nodes result)
    (isAdded : node ∈ nodes) :
    node ∈ result.nodes occur :=
  adds.perm.symm.subset (List.mem_append_right _ isAdded)

/-- The members that clauses had are still among them when others are added. -/
theorem Clauses.Adds.mem_of_mem
    {clauses result : Clauses Node}
    {occur other : Occur}
    {nodes : List Node}
    {node : Node}
    (adds : clauses.Adds occur nodes result)
    (isMember : node ∈ clauses.nodes other) :
    node ∈ result.nodes other := by
  by_cases same : other = occur
  · subst same
    exact adds.perm.symm.subset (List.mem_append_left _ isMember)
  · rw [adds.others other same]
    exact isMember

/-- Two nodes that were added to clauses are well-formed where the clauses
are. -/
theorem Clauses.wellFormed_of_add_add
    {clauses : Clauses Node}
    {first second : Occur}
    {left right : Node}
    (conditionLeft : left.isEmpty = false)
    (conditionRight : right.isEmpty = false)
    (formed :
      (Node.clauses ((clauses.add first left).add second right)).WellFormed
      law) :
    left.WellFormed law ∧ right.WellFormed law := by
  have addsLeft := adds_add clauses first conditionLeft
  have addsRight := adds_add (clauses.add first left) second conditionRight
  have members := formed.areWellFormed.members
  constructor
  · exact members first left
      (addsRight.mem_of_mem (addsLeft.mem (List.mem_singleton_self left)))
  · exact members second right (addsRight.mem (List.mem_singleton_self right))

/-- Leaves that stand side by side in a well-formed tree are in normal form
there, under any further law that they obey. -/
theorem Node.isNormal_of_wellFormed_apart
    (operation : MergeOperation)
    {keeps : Leaf → Prop}
    {a b : Leaf}
    (formed : (operation.apart (.leaf a) (.leaf b)).WellFormed keeps)
    (obeysA : a.isNothing = false ∧ law a)
    (obeysB : b.isNothing = false ∧ law b) :
    (operation.apart (.leaf a) (.leaf b)).IsNormal fun leaf =>
      keeps leaf ∧ law leaf := by
  have bothFormed : (Node.leaf a).WellFormed keeps ∧
      (Node.leaf b).WellFormed keeps := by
    cases operation with
    | union => exact Clauses.wellFormed_of_add_add obeysA.1 obeysB.1 formed
    | inter => exact Clauses.wellFormed_of_add_add obeysA.1 obeysB.1 formed
  exact isNormal_apart_leaf operation
    (.leaf obeysA.1 ⟨bothFormed.1.lawful_leaf, obeysA.2⟩)
    (.leaf obeysB.1 ⟨bothFormed.2.lawful_leaf, obeysB.2⟩)

/-- Leaves that must not hold in a well-formed tree are in normal form there,
under any further law that they obey. -/
theorem Node.isNormal_of_wellFormed_negation
    {keeps : Leaf → Prop}
    {leaves : List Leaf}
    (nonempty : leaves ≠ [])
    (formed : (Node.clauses
      (Clauses.negation.addAll .mustNot
        (leaves.map Node.leaf))).WellFormed keeps)
    (obeys : ∀ leaf ∈ leaves, leaf.isNothing = false ∧ law leaf) :
    (Node.clauses
      (Clauses.negation.addAll .mustNot (leaves.map Node.leaf))).IsNormal
      fun leaf =>
      keeps leaf ∧ law leaf := by
  have stated : ∀ node ∈ leaves.map Node.leaf,
      node.WellFormed fun _ => True := by
    intro node isNode
    obtain ⟨leaf, isLeaf, rfl⟩ := List.mem_map.mp isNode
    exact .leaf (obeys leaf isLeaf).1 trivial
  obtain ⟨_, adds⟩ := Clauses.adds_negation stated
  refine Node.isNormal_negation (by simpa using nonempty) fun node isNode => ?_
  have keeps := formed.areWellFormed.members .mustNot node (adds.mem isNode)
  obtain ⟨leaf, isLeaf, rfl⟩ := List.mem_map.mp isNode
  obtain ⟨condition, lawful⟩ := obeys leaf isLeaf
  exact Node.IsNormal.belongs_leaf
    (.leaf condition ⟨keeps.lawful_leaf, lawful⟩) .mustNot

namespace Leaf.IsLasting

variable {a b leaf result : Leaf} {node : Node} (lasting : IsLasting law)
include lasting

/-- What is recast from a leaf in normal form states something and obeys a law
that lasts. -/
theorem obeys_of_recasts
    (normal : (Node.leaf leaf).IsNormal fun leaf =>
      leaf.Keeps discipline ∧ law leaf)
    (recast : leaf.Recasts result) :
    result.isNothing = false ∧ law result := by
  have filled := normal.lawful_leaf.1.isFilled
  exact ⟨(recast.isAkin filled).isNothing.trans normal.condition_leaf,
    lasting.recast leaf result recast filled normal.lawful_leaf.2⟩

/-- Leaves in normal form merge to a tree in normal form. -/
theorem isNormal_of_merge
    {operation : MergeOperation}
    (tight : discipline.tight = true)
    (normalA : (Node.leaf a).IsNormal fun leaf =>
      leaf.Keeps discipline ∧ law leaf)
    (normalB : (Node.leaf b).IsNormal fun leaf =>
      leaf.Keeps discipline ∧ law leaf)
    (success : Leaf.merge operation a b = .ok node) :
    node.IsNormal fun leaf => leaf.Keeps discipline ∧ law leaf := by
  have formedA := normalA.wellFormed.mono fun _ => And.left
  have formedB := normalB.wellFormed.mono fun _ => And.left
  have merges :
      operation.Merges discipline (.leaf a) (.leaf b)
        (Leaf.merge operation a b) :=
    Leaf.merges_merge formedA formedB fun _ => tight
  have outcome := outcome_merge operation a b
  rw [success] at merges outcome
  have formed : node.WellFormed (Keeps discipline) := merges.formed
  have obeys : ∀ {result : Leaf}, a.Recasts result ∨ b.Recasts result →
      result.isNothing = false ∧ law result :=
    fun recast =>
      recast.elim (lasting.obeys_of_recasts normalA)
        (lasting.obeys_of_recasts normalB)
  cases outcome with
  | single recast =>
      obtain ⟨condition, lawful⟩ := obeys recast
      exact .leaf condition ⟨formed.lawful_leaf, lawful⟩
  | apart recastLeft recastRight =>
      exact Node.isNormal_of_wellFormed_apart operation formed
        (obeys recastLeft)
        (obeys recastRight)

/-- The complement of a leaf in normal form is in normal form. -/
theorem isNormal_of_complement
    (probed : ∀ field, discipline.ordered field → discipline.probed field)
    (normal : (Node.leaf leaf).IsNormal fun leaf =>
      leaf.Keeps discipline ∧ law leaf)
    (success : leaf.complement = .ok node) :
    node.IsNormal fun leaf => leaf.Keeps discipline ∧ law leaf := by
  have leafFormed := normal.wellFormed.mono fun _ => And.left
  obtain ⟨result, complements, isComplement⟩ := exists_complement leafFormed
  rw [success] at complements
  cases complements
  have formed := isComplement.formed probed
  have obeys : ∀ {result : Leaf}, leaf.Recasts result →
      result.isNothing = false ∧ law result :=
    lasting.obeys_of_recasts normal
  cases turnsInto_of_complement success with
  | single recast =>
      obtain ⟨condition, lawful⟩ := obeys recast
      exact .leaf condition ⟨formed.lawful_leaf, lawful⟩
  | either recastLeft recastRight =>
      exact Node.isNormal_of_wellFormed_apart .union formed (obeys recastLeft)
        (obeys recastRight)
  | negation nonempty turned =>
      refine Node.isNormal_of_wellFormed_negation
        (nonempty normal.lawful_leaf.1.isFilled) formed
        fun result isResult => ?_
      rcases turned with recasts | ⟨range, rfl, rfl⟩
      · exact obeys (recasts result isResult)
      · rw [List.mem_singleton.mp isResult]
        exact ⟨rfl, lasting.presence range normal.lawful_leaf.2⟩

/-- What keeps to a discipline and obeys a lasting law besides is stable under
the algebra. -/
theorem isStable
    (tight : discipline.tight = true)
    (probed : ∀ field, discipline.ordered field → discipline.probed field) :
    IsStable fun leaf => leaf.Keeps discipline ∧ law leaf where
  merge _ _ _ _ normalA normalB success :=
    lasting.isNormal_of_merge tight normalA normalB success
  complement _ _ normal success :=
    lasting.isNormal_of_complement probed normal success

end Leaf.IsLasting

end Stability

/-- Where a list is mapped with success, every result is one for some
element. -/
theorem exists_mem_of_mapM_eq_ok
    {α β : Type}
    {read : α → Except Error β}
    {list : List α}
    {results : List β}
    {result : β}
    (success : list.mapM read = .ok results)
    (isResult : result ∈ results) :
    ∃ element ∈ list, read element = .ok result := by
  have reads := forall₂_of_mapM_eq_ok success
  clear success
  induction reads with
  | nil => cases isResult
  | cons readsFirst _ hypothesis =>
      rcases List.mem_cons.mp isResult with rfl | later
      · exact ⟨_, List.mem_cons_self, readsFirst⟩
      · obtain ⟨element, isElement, reads⟩ := hypothesis later
        exact ⟨element, List.mem_cons_of_mem _ isElement, reads⟩

/-- A matcher that was found valid has a meaning. -/
theorem Matcher.exists_predicate
    {matcher : Matcher}
    {nothing : Unit}
    (valid : matcher.validate = .ok nothing) :
    ∃ holds, matcher.predicate = .ok holds := by
  have known : ∀ {convert : Regex → String → Bool},
      (matcher.expression.map fun _ => ()) = .ok nothing →
        ∃ holds, matcher.expression.map convert = .ok holds := by
    intro convert readable
    cases expression : matcher.expression with
    | error error =>
        rw [expression] at readable
        cases readable
    | ok expression => exact ⟨_, rfl⟩
  cases matcher with
  | stem text => exact ⟨_, rfl⟩
  | near word => exact ⟨_, rfl⟩
  | regexp pattern => exact known valid
  | glob pattern =>
      unfold predicate
      dsimp only
      split
      · exact known valid
      · exact ⟨_, rfl⟩

namespace Compiler

variable {compiler : Compiler} {discipline : Discipline} {condition : Condition}
  {node : Node}

theorem isStable_compiled (obeys : compiler.Obeys discipline) :
    Leaf.IsStable fun leaf => leaf.Keeps discipline ∧ leaf.IsNeat :=
  Leaf.isLasting_isNeat.isStable obeys.tight obeys.probed

/-- A compiled condition is in normal form. -/
theorem isNormal_compileCondition
    (obeys : compiler.Obeys discipline)
    (suits : condition.Suits discipline)
    (success : compiler.compileCondition condition = .ok node) :
    node.IsNormal fun leaf => leaf.Keeps discipline ∧ leaf.IsNeat := by
  have formed := wellFormed_compileCondition obeys suits success
  have isNormal : ∀ leaf : Leaf, node = .leaf leaf → leaf.IsNeat →
      node.IsNormal fun leaf => leaf.Keeps discipline ∧ leaf.IsNeat := by
    rintro leaf rfl neat
    exact .leaf formed.condition_leaf ⟨formed.lawful_leaf, neat⟩
  obtain ⟨boost, _, yields⟩ := exists_yields_of_compileCondition success
  cases yields with
  | ids _ some =>
      exact isNormal _ rfl ⟨IdSet.ofValues_ne_nil boost some,
        IdSet.pairwise_insertAll .nil⟩
  | fullText resolves merges =>
      refine Node.isNormal_of_mergeAll (isStable_compiled obeys)
        (fun member isMember => ?_) merges
      obtain ⟨text, _, rfl⟩ := List.mem_map.mp isMember
      exact .leaf rfl ⟨obeys.type_eq resolves.type, trivial⟩
  | @values scope _ _ lists =>
      exact isNormal _
        rfl (Leaf.isNeat_leaf (ValueSet.arrange_ne_nil scope lists.nonempty))
  | pattern _ valid => exact isNormal _ rfl (Matcher.exists_predicate valid)
  | everything | queryText | presence | range | phrase =>
      exact isNormal _ rfl trivial

/-- Where the trees of conditions are in normal form under a stable law, so are
the trees of expressions. -/
theorem isNormal_of_compile
    {law : Leaf → Prop}
    {expression : Expr}
    (stable : Leaf.IsStable law)
    (every : expression.Every fun condition =>
      ∀ node, compiler.compileCondition condition = .ok node →
        node.IsNormal law)
    (success : compiler.compile expression = .ok node) :
    node.IsNormal law := by
  have merged :
      ∀ {operation : MergeOperation} {parts : List Expr} {node : Node},
      (∀ part ∈ parts, ∀ node, compiler.compile part = .ok node →
        node.IsNormal law) →
        compiler.compileAll parts >>= Node.mergeAll operation = .ok node →
          node.IsNormal law := by
    intro operation parts node normal success
    obtain ⟨nodes, compiles, merges⟩ := exists_of_bind_eq_ok success
    rw [compileAll_eq_mapM] at compiles
    refine Node.isNormal_of_mergeAll stable (fun member isMember => ?_) merges
    obtain ⟨part, isPart, compilesTo⟩ :=
      exists_mem_of_mapM_eq_ok compiles isMember
    exact normal part isPart member compilesTo
  induction every generalizing node with
  | condition normal =>
      rw [compile] at success
      exact normal node success
  | all every hypothesis =>
      rw [compile] at success
      exact merged (fun part isPart _ => hypothesis part isPart) success
  | any every hypothesis =>
      rw [compile] at success
      exact merged (fun part isPart _ => hypothesis part isPart) success
  | not every hypothesis =>
      rw [compile] at success
      obtain ⟨part, compiles, success⟩ := exists_of_bind_eq_ok success
      exact Node.isNormal_of_complement stable (hypothesis compiles) success

/-- Every compiled tree is in normal form: no leaf states nothing, no clauses
could be replaced by one of them or be taken in by those around them, one
alternative is enough, sets of values and of identifiers are ordered and as
small as they can be, and ranges leave a place for a value. -/
theorem isNormal_compile
    {expression : Expr}
    (success : compiler.compile expression = .ok node) :
    node.IsNormal Leaf.IsReduced := by
  have obeys := compiler.obeys_looseDiscipline
  have normal : node.IsNormal fun leaf =>
      leaf.Keeps compiler.looseDiscipline ∧ leaf.IsNeat := by
    refine isNormal_of_compile (isStable_compiled obeys) ?_ success
    apply Expr.every_of_forall
    intro condition node
    exact isNormal_compileCondition obeys
      ⟨fun _ _ => trivial, fun _ => trivial, fun _ _ => trivial⟩
  exact normal.mono fun leaf both => both.2.isReduced both.1 obeys.tight

/-- What is red or round and has neither of two sizes compiles to two
alternatives and a set of sizes that must not occur. -/
theorem isNormal_compile_shape :
    let keyword (field : String) : Scope :=
      ⟨field, ⟨.keyword, false⟩, .one, false⟩
    (Node.clauses
      { must := []
        filter := []
        should :=
          [⟨.field "color", [.leaf (.term ⟨keyword "color", .str "red"⟩)]⟩,
          ⟨.field "shape", [.leaf (.term ⟨keyword "shape", .str "round"⟩)]⟩]
        mustNot := [⟨.field "size",
          [.leaf (.valueSet ⟨keyword "size", [.str "large", .str "small"]⟩)]⟩]
        operators := ⟨false, true, true⟩
        minimumShould := 1 }).IsNormal Leaf.IsReduced := by
  intro keyword
  refine isNormal_compile (show Compiler.compile ⟨.empty, .standard⟩
    (.all
      [.any [.condition (.equalTo "color" "red"),
        .condition (.equalTo "shape" "round")],
      .not (.condition ⟨"size", .equal, ["small", "large"], .none⟩)]) =
        .ok _ from ?_)
  with_unfolding_all rfl

end Compiler
end SearchQuery
