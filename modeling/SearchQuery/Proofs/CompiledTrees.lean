import Mathlib.Data.List.Forall2
import SearchQuery.Proofs.ComplementLaw
import SearchQuery.Proofs.Conditions

/-!
# Compilation preserves meaning

The tree of an expression is well-formed and holds where the expression does.
This needs the laws of union, intersection and complement, and well-formed trees
at every step.
-/

namespace SearchQuery

/-- Every condition of an expression has a property. -/
inductive Expr.Every (property : Condition → Prop) : Expr → Prop
  | condition {content : Condition} (has : property content) :
    Every property (.condition content)
  | all {parts : List Expr} (every : ∀ part ∈ parts, Every property part) :
      Every property (.all parts)
  | any {parts : List Expr} (every : ∀ part ∈ parts, Every property part) :
      Every property (.any parts)
  | not {part : Expr} (every : Every property part) : Every property (.not part)

/-- A property of all conditions is one of every condition of an expression. -/
theorem Expr.every_of_forall
    {property : Condition → Prop}
    (has : ∀ condition, property condition) :
    ∀ expression, Every property expression
  | .condition content => .condition (has content)
  | .all parts => .all fun part _ => every_of_forall has part
  | .any parts => .any fun part _ => every_of_forall has part
  | .not part => .not (every_of_forall has part)

namespace Compiler

variable (compiler : Compiler) (engine : Engine) (document : StoredDocument)

mutual

/-- An expression holds for a document: the connectives are Boolean, and a
condition holds where the tree does that is compiled for it. -/
def holds : Expr → Bool
  | .condition content =>
      match compiler.compileCondition content with
      | .ok node => node.holds engine document
      | .error _ => false
  | .all parts => (verdicts parts).all id
  | .any parts => (verdicts parts).any id
  | .not part => !holds part

/-- The verdicts on expressions. -/
def verdicts : List Expr → List Bool
  | [] => []
  | part :: rest => holds part :: verdicts rest

end

end Compiler

/-- A node stands for an expression: it is well-formed, and if the discipline is
separated, it holds for the complete documents for which the expression
holds. -/
structure Node.StandsFor (node : Node) (compiler : Compiler)
    (discipline : Discipline)
    (expression : Expr) : Prop where
  formed : node.WellFormed (Leaf.Keeps discipline)
  holds : discipline.IsSeparated → ∀ engine document,
    document.Fits discipline.types →
    document.IsComplete discipline.types discipline.ordered →
    node.holds engine document = compiler.holds engine document expression

namespace Compiler

variable {compiler : Compiler} {discipline : Discipline}

theorem compileAll_eq_mapM (parts : List Expr) :
    compiler.compileAll parts = parts.mapM compiler.compile := by
  induction parts with
  | nil => rw [compileAll, List.mapM_nil]; rfl
  | cons part rest hypothesis => rw [compileAll, hypothesis, List.mapM_cons]

/-- Nodes that stand for expressions are well-formed. -/
theorem wellFormed_of_standsFor
    {parts : List Expr}
    {nodes : List Node}
    (stand :
      List.Forall₂ (fun part node => node.StandsFor compiler discipline part)
      parts nodes) :
    ∀ node ∈ nodes, node.WellFormed (Leaf.Keeps discipline) := by
  induction stand with
  | nil => exact List.forall_mem_nil _
  | cons stands _ hypothesis =>
      exact List.forall_mem_cons.mpr ⟨stands.formed, hypothesis⟩

/-- The verdicts on nodes that stand for expressions are those on the
expressions. -/
theorem map_holds_of_standsFor
    {engine : Engine}
    {document : StoredDocument}
    {parts : List Expr}
    {nodes : List Node}
    (separated : discipline.IsSeparated)
    (fits : document.Fits discipline.types)
    (complete : document.IsComplete discipline.types discipline.ordered)
    (stand :
      List.Forall₂ (fun part node => node.StandsFor compiler discipline part)
      parts nodes) :
    nodes.map (Node.holds engine document) =
      compiler.verdicts engine document parts := by
  induction stand with
  | nil => rw [verdicts, List.map_nil]
  | cons stands _ hypothesis =>
      rw [verdicts, List.map_cons, hypothesis,
        stands.holds separated engine document fits complete]

section Compiling

variable (obeys : compiler.Obeys discipline)
include obeys

/-- What is merged from the nodes for expressions joins the verdicts on the
expressions. -/
theorem standsFor_of_mergeAll
    {operation : MergeOperation}
    {expression : Expr}
    {parts : List Expr}
    {node : Node}
    (hypothesis : ∀ part ∈ parts, ∀ node, compiler.compile part = .ok node →
      node.StandsFor compiler discipline part)
    (joins : ∀ engine document, compiler.holds engine document expression =
      operation.joinAll (compiler.verdicts engine document parts))
    (success : compiler.compileAll parts >>= Node.mergeAll operation =
      .ok node) :
    node.StandsFor compiler discipline expression := by
  obtain ⟨nodes, compiles, merges⟩ := exists_of_bind_eq_ok success
  rw [compileAll_eq_mapM] at compiles
  have compiled :=
    (List.forall₂_and_left _ _).mpr ⟨hypothesis, forall₂_of_mapM_eq_ok compiles⟩
  have stand :
      List.Forall₂ (fun part node => node.StandsFor compiler discipline part)
      parts nodes :=
    compiled.imp fun part node both => both.1 node both.2
  have joinAll :=
    Node.isJoinAll_of_mergeAll obeys.tight
      (wellFormed_of_standsFor stand) merges
  refine ⟨joinAll.formed, fun separated engine document fits complete => ?_⟩
  rw [joinAll.holds separated engine document fits, joins,
    map_holds_of_standsFor separated fits complete stand]

/-- The tree of an expression stands for it. -/
theorem standsFor_of_compile
    {expression : Expr}
    {node : Node}
    (every : expression.Every (Condition.Suits discipline))
    (success : compiler.compile expression = .ok node) :
    node.StandsFor compiler discipline expression := by
  induction every generalizing node with
  | condition suits =>
      rw [compile] at success
      refine ⟨wellFormed_compileCondition obeys suits success,
        fun _ engine document _ _ => ?_⟩
      rw [holds, success]
  | all every hypothesis =>
      rw [compile] at success
      refine standsFor_of_mergeAll obeys
        (fun part isPart _ => hypothesis part isPart) ?_ success
      intro engine document
      rw [holds]
      rfl
  | any every hypothesis =>
      rw [compile] at success
      refine standsFor_of_mergeAll obeys
        (fun part isPart _ => hypothesis part isPart) ?_ success
      intro engine document
      rw [holds]
      rfl
  | not every hypothesis =>
      rw [compile] at success
      obtain ⟨part, compiles, success⟩ := exists_of_bind_eq_ok success
      have stands := hypothesis compiles
      obtain ⟨result, complements, isComplement⟩ :=
        Node.exists_complement stands.formed
      rw [complements] at success
      cases success
      refine ⟨isComplement.formed obeys.probed,
        fun separated engine document fits complete => ?_⟩
      rw [isComplement.holds engine document fits complete,
        stands.holds separated engine document fits complete, holds]

end Compiling

/-- The discipline of the trees that are compiled for plain conditions on some
fields: what stands under the name for the identifier of documents reads no
field. -/
def plainDiscipline (compiler : Compiler) (fields : String → Prop) :
    Discipline where
  types := compiler.types
  ordered field := field ≠ IdSet.field ∧ fields field
  probed := (· ≠ IdSet.field)
  foreign := (· = IdSet.field)
  tight := true

theorem obeys_plainDiscipline (compiler : Compiler) (fields : String → Prop) :
    compiler.Obeys (compiler.plainDiscipline fields) where
  types := rfl
  tight := rfl
  probed _ ordered := ordered.1

end Compiler

/-- The condition is no query in the language of the search engine, and does not
read a field with the name that stands for the identifier of documents. -/
structure Condition.IsPlain (condition : Condition) : Prop where
  parsed : condition.comparison ≠ .queryText
  named : condition.field? ≠ some IdSet.field

/-- Plain conditions suit the discipline of a compiler. -/
theorem Condition.IsPlain.suits
    {condition : Condition}
    {fields : String → Prop}
    (isPlain : condition.IsPlain)
    (compiler : Compiler)
    (reads : ∀ field, condition.field? = some field → fields field) :
    condition.Suits (compiler.plainDiscipline fields) where
  ordered field isField := by
    refine ⟨?_, reads field isField⟩
    rintro rfl
    exact isPlain.named isField
  ids _ := rfl
  queryText isQuery := absurd isQuery isPlain.parsed

/-- What two properties imply for conditions, they imply for expressions. -/
theorem Expr.Every.imp₂
    {first second result : Condition → Prop}
    {expression : Expr}
    (everyFirst : expression.Every first)
    (everySecond : expression.Every second)
    (implies : ∀ condition, first condition → second condition →
      result condition) :
    expression.Every result := by
  induction everyFirst with
  | condition has =>
      cases everySecond with
      | condition hasSecond => exact .condition (implies _ has hasSecond)
  | all every hypothesis =>
      cases everySecond with
      | all everySecond =>
          exact .all fun part isPart =>
            hypothesis part isPart (everySecond part isPart)
  | any every hypothesis =>
      cases everySecond with
      | any everySecond =>
          exact .any fun part isPart =>
            hypothesis part isPart (everySecond part isPart)
  | not every hypothesis =>
      cases everySecond with
      | not everySecond => exact .not (hypothesis everySecond)

theorem Expr.Every.mono
    {property weaker : Condition → Prop}
    {expression : Expr}
    (every : expression.Every property)
    (implies : ∀ condition, property condition → weaker condition) :
    expression.Every weaker :=
  every.imp₂ every fun condition has _ => implies condition has

/-- Compilation preserves meaning: where an expression of plain conditions
compiles to a tree, the tree holds for the documents for which the expression
does, if they have a value in every field that the expression reads and that is
no array. So the discipline of the tree depends on the document: ranges stand
only on fields that are filled. -/
theorem Compiler.holds_compile
    {compiler : Compiler}
    {engine : Engine}
    {document : StoredDocument}
    {expression : Expr}
    {node : Node}
    (plain : expression.Every Condition.IsPlain)
    (fits : document.Fits compiler.types)
    (complete : expression.Every fun condition =>
      document.IsComplete compiler.types (condition.field? = some ·))
    (success : compiler.compile expression = .ok node) :
    node.holds engine document = compiler.holds engine document expression := by
  have suits : expression.Every
      (Condition.Suits
        (compiler.plainDiscipline (document.IsFilled compiler.types))) :=
    plain.imp₂ complete fun condition isPlain reads =>
      isPlain.suits compiler reads
  have stands :=
    standsFor_of_compile (compiler.obeys_plainDiscipline _) suits success
  exact stands.holds (fun _ probed foreign => probed foreign) engine
    document fits
    fun _ ordered => ordered.2

theorem Compiler.types_empty (settings : Settings) (field : String) :
    types ⟨.empty, settings⟩ field = ⟨.keyword, false⟩ := by
  unfold types Schema.find?
  generalize (Text.split '.' field.toList).map String.ofList = path
  cases path with
  | nil => rfl
  | cons name rest => cases rest <;> rfl

/-- What is red, or no color that comes after green, is found by the tree for
it. -/
theorem Compiler.holds_compile_color :
    (Node.either
        (.leaf
          (.range ⟨⟨"color", ⟨.keyword, false⟩, .one, false⟩, none,
            some ⟨.lte, .str "green"⟩,
          none, none⟩))
        (.leaf
          (.term ⟨⟨"color", ⟨.keyword, false⟩, .one, false⟩,
            .str "red"⟩))).holds default
          ⟨"", fun _ => [.str "blue"]⟩ =
      holds ⟨.empty, .standard⟩ default ⟨"", fun _ => [.str "blue"]⟩
        (.any [.condition (.equalTo "color" "red"),
          .not (.condition ⟨"color", .gt, ["green"], .none⟩)]) := by
  have red : (Condition.equalTo "color" "red").IsPlain := ⟨by decide, by decide⟩
  have beyond : (⟨"color", .gt, ["green"], .none⟩ : Condition).IsPlain :=
    ⟨by decide, by decide⟩
  apply holds_compile
  · apply Expr.Every.any
    simpa using ⟨.condition red, .not (.condition beyond)⟩
  · constructor
    · intro field value isValue
      rw [List.mem_singleton.mp isValue, types_empty]
      rfl
    · intro field _
      exact Nat.le_refl 1
  · exact Expr.every_of_forall (fun _ _ _ _ => List.cons_ne_nil _ _) _
  · with_unfolding_all rfl

/-- The discipline of the trees that are compiled for any conditions at all:
nothing is asked of the fields on which they stand. -/
def Compiler.looseDiscipline (compiler : Compiler) : Discipline where
  types := compiler.types
  ordered _ := True
  probed _ := True
  foreign _ := True
  tight := true

theorem Compiler.obeys_looseDiscipline (compiler : Compiler) :
    compiler.Obeys compiler.looseDiscipline where
  types := rfl
  tight := rfl
  probed _ := id

theorem Expr.every_suits_looseDiscipline (compiler : Compiler)
    (expression : Expr) :
    expression.Every (Condition.Suits compiler.looseDiscipline) := by
  apply every_of_forall
  intro condition
  exact ⟨fun _ _ => trivial, fun _ => trivial, fun _ _ => trivial⟩

/-- The negation of an expression compiles where the expression does. -/
theorem Compiler.exists_compile_not
    {compiler : Compiler}
    {expression : Expr}
    {node : Node}
    (success : compiler.compile expression = .ok node) :
    ∃ result, compiler.compile (.not expression) = .ok result := by
  have stands := standsFor_of_compile compiler.obeys_looseDiscipline
    (expression.every_suits_looseDiscipline compiler) success
  obtain ⟨result, complements, _⟩ := Node.exists_complement stands.formed
  refine ⟨result, ?_⟩
  rw [compile, success]
  exact complements

/-- The complement of a well-formed tree exists and holds for the complete
documents for which the tree does not. The negation of an expression fails to
compile where the expression does, and for the same reason. -/
theorem Node.holds_complement
    {discipline : Discipline}
    {node : Node}
    (formed : node.WellFormed (Leaf.Keeps discipline)) :
    (∃ result, node.complement = .ok result ∧
      ∀ engine document, document.Fits discipline.types →
        document.IsComplete discipline.types discipline.ordered →
        result.holds engine document = !node.holds engine document) ∧
    ∀ (compiler : Compiler) (expression : Expr) (error : Error),
      compiler.compile (.not expression) = .error error ↔
        compiler.compile expression = .error error := by
  constructor
  · obtain ⟨result, success, isComplement⟩ := exists_complement formed
    exact ⟨result, success, isComplement.holds⟩
  · intro compiler expression error
    cases compiles : compiler.compile expression with
    | error cause =>
        rw [Compiler.compile, compiles]
        exact .rfl
    | ok tree =>
        obtain ⟨result, compilesNot⟩ := Compiler.exists_compile_not compiles
        rw [compilesNot]
        constructor
        · intro failure
          cases failure
        · intro failure
          cases failure

/-- Outside of the sizes between one and three are those up to one and those
from three. A field that is not declared is an error with negation as without
it. -/
theorem Node.holds_complement_size :
    (Node.either
      (.leaf (.range ⟨.ofSize, none, some ⟨.lte, .int 1⟩, none, none⟩))
        (.leaf (.range ⟨.ofSize, some ⟨.gte, .int 3⟩, none, none, none⟩))).holds
          default
          (.ofSize 5) =
      (!(Node.leaf (.sizeBetween 1 3)).holds default (.ofSize 5)) ∧
    Compiler.compile ⟨.strict, .standard⟩
      (.not (.condition (.equalTo "size" "1"))) =
      .error (.unknownField "size") := by
  obtain ⟨⟨result, success, holds⟩, fails⟩ :=
    holds_complement (Leaf.wellFormed_sizeBetween 1 3)
  cases success
  constructor
  · exact holds default (.ofSize 5) (StoredDocument.fits_ofSize 5 false)
      fun _ _ _ => List.cons_ne_nil _ _
  · rw [fails]
    with_unfolding_all rfl

end SearchQuery
