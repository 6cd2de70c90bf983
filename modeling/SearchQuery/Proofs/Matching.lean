import SearchQuery.Algebra.Nodes
import SearchQuery.Proofs.ValueOrder

/-!
# Which documents a tree matches

A document holds values in its fields and has one identifier. Conditions on
words of a text, patterns that are not about whole values, and queries in the
language of the search engine are left to an engine, of which only little is
assumed.
-/

namespace SearchQuery

/-- A document as the search engine sees it. -/
structure StoredDocument where
  id : String
  values : String → List Value

namespace StoredDocument

/-- The fields hold values of their kinds, and fields that are no arrays at most
one. -/
structure Fits (document : StoredDocument) (types : String → ValueType) :
    Prop where
  kinds : ∀ field, ∀ value ∈ document.values field,
    value.isOf (types field).fieldType = true
  single : ∀ field, (types field).isArray = false →
    (document.values field).length ≤ 1

/-- A field holds a value, unless it is an array. -/
def IsFilled (document : StoredDocument) (types : String → ValueType)
    (field : String) : Prop :=
  (types field).isArray = false → document.values field ≠ []

/-- Some fields hold values, unless they are arrays. -/
def IsComplete (document : StoredDocument) (types : String → ValueType)
    (fields : String → Prop) : Prop :=
  ∀ field, fields field → document.IsFilled types field

/-- Some value of a field passes a test. -/
def hasValue (document : StoredDocument) (field : String)
    (test : Value → Bool) : Bool :=
  (document.values field).any test

end StoredDocument

/-- The verdicts of a search engine on leaves that are opaque here. Verdicts on
the conditions of a field do not depend on the weight and the scoring, and need
a value in the field. Queries in the engine's own language are judged alike when
they are the same. -/
structure Engine where
  verdict : Leaf → StoredDocument → Bool
  verdict_bare : ∀ leaf document, leaf.scope?.isSome = true →
    verdict leaf.bare document = verdict leaf document
  verdict_needs_value : ∀ leaf scope document, leaf.scope? = some scope →
    verdict leaf document = true → document.values scope.field ≠ []
  verdict_queryText : ∀ a b : QueryText, a.same b = true →
    verdict (.queryText a) = verdict (.queryText b)

/-- The engine that finds nothing. -/
instance : Inhabited Engine where
  default :=
    { verdict := fun _ _ => false
      verdict_bare := fun _ _ _ => rfl
      verdict_needs_value := fun _ _ _ _ found => Bool.noConfusion found
      verdict_queryText := fun _ _ _ => rfl }

/-- The value has a text that the pattern describes. -/
def Pattern.accepts (pattern : Pattern) (value : Value) : Bool :=
  value.text?.any fun text => (pattern.matcher.accepts text).toOption.getD false

section Matching

variable (engine : Engine) (document : StoredDocument)

/-- The condition of a leaf holds for the document. -/
def Leaf.holds : Leaf → Bool
  | .term content => document.hasValue content.field content.accepts
  | .valueSet content => document.hasValue content.field content.contains
  | .range content => document.hasValue content.field content.includes
  | .pattern content =>
      if content.isOnValues then document.hasValue content.field content.accepts
      else engine.verdict (.pattern content) document
  | .fullText content => engine.verdict (.fullText content) document
  | .phrase content => engine.verdict (.phrase content) document
  | .presence content => !(document.values content.field).isEmpty
  | .ids content => content.contains document.id
  | .queryText content => engine.verdict (.queryText content) document
  | .everything _ | .nothing => true

mutual

/-- A tree holds for the document: all that must hold does, with or without
scoring, nothing that must not hold does, and enough alternatives hold if there
are any. -/
def Node.holds : Node → Bool
  | .leaf content => content.holds engine document
  | .clauses ⟨must, filter, should, mustNot, _, minimumShould⟩ =>
      (verdictsOfGroups must).all id && (verdictsOfGroups filter).all id &&
        (verdictsOfGroups mustNot).all not &&
        ((verdictsOfGroups should).isEmpty ||
          minimumShould ≤ (verdictsOfGroups should).countP id)

/-- The verdicts on the members of groups. -/
def Node.verdictsOfGroups : List (Group Node) → List Bool
  | [] => []
  | ⟨_, members⟩ :: rest => verdictsOfMembers members ++ verdictsOfGroups rest

/-- The verdicts on the members of a group. -/
def Node.verdictsOfMembers : List Node → List Bool
  | [] => []
  | member :: rest => member.holds :: verdictsOfMembers rest

end

end Matching

namespace MergeOperation

/-- How an operation joins two verdicts. -/
def join : MergeOperation → Bool → Bool → Bool
  | .union, left, right => left || right
  | .inter, left, right => left && right

/-- How an operation joins any number of verdicts. -/
def joinAll : MergeOperation → List Bool → Bool
  | .union, verdicts => verdicts.any id
  | .inter, verdicts => verdicts.all id

theorem join_comm (operation : MergeOperation) (left right : Bool) :
    operation.join left right = operation.join right left := by
  cases operation
  · exact Bool.or_comm left right
  · exact Bool.and_comm left right

theorem joinAll_cons (operation : MergeOperation) (verdict : Bool)
    (verdicts : List Bool) :
    operation.joinAll (verdict :: verdicts) =
      operation.join verdict (operation.joinAll verdicts) := by
  cases operation <;> rfl

theorem joinAll_append (operation : MergeOperation) (front back : List Bool) :
    operation.joinAll (front ++ back) =
      operation.join (operation.joinAll front) (operation.joinAll back) := by
  cases operation
  · exact List.any_append
  · exact List.all_append

/-- Verdicts are joined in any order. -/
theorem joinAll_perm
    (operation : MergeOperation)
    {front back : List Bool}
    (permutes : front.Perm back) :
    operation.joinAll front = operation.joinAll back := by
  cases operation
  · exact permutes.any_eq
  · exact permutes.all_eq

end MergeOperation

section Equations

variable {engine : Engine} {document : StoredDocument}

@[simp] theorem Node.holds_leaf (content : Leaf) :
    (Node.leaf content).holds engine document =
      content.holds engine document := by
  rw [holds]

theorem Node.verdictsOfMembers_eq_map (members : List Node) :
    verdictsOfMembers engine document members =
      members.map (holds engine document) := by
  induction members with
  | nil => rfl
  | cons member rest hypothesis =>
      rw [verdictsOfMembers, hypothesis, List.map_cons]

theorem Node.verdictsOfGroups_eq_map (groups : List (Group Node)) :
    verdictsOfGroups engine document groups =
      (Bucket.nodes groups).map (holds engine document) := by
  induction groups with
  | nil => rfl
  | cons group rest hypothesis =>
      rw [verdictsOfGroups, hypothesis, verdictsOfMembers_eq_map,
        ← List.map_append]
      rfl

/-- The verdicts on the clauses of one kind. -/
def Clauses.verdicts (engine : Engine) (document : StoredDocument)
    (clauses : Clauses Node)
    (occur : Occur) : List Bool :=
  (clauses.nodes occur).map (Node.holds engine document)

/-- Enough alternatives hold, or there are none. -/
def Clauses.meetsMinimum (minimum : Nat) (verdicts : List Bool) : Bool :=
  verdicts.isEmpty || minimum ≤ verdicts.countP id

/-- Whether clauses hold is decided by the verdicts on them. -/
theorem Node.holds_clauses (clauses : Clauses Node) :
    (Node.clauses clauses).holds engine document =
      ((clauses.verdicts engine document .must).all id &&
        (clauses.verdicts engine document .filter).all id &&
        (clauses.verdicts engine document .mustNot).all not &&
        Clauses.meetsMinimum clauses.minimumShould
          (clauses.verdicts engine document .should)) := by
  obtain ⟨must, filter, should, mustNot, operators, minimumShould⟩ := clauses
  rw [holds]
  simp only [verdictsOfGroups_eq_map]
  rfl

/-- Clauses hold where all that must hold does, nothing that must not hold does,
and enough of the alternatives hold. -/
theorem Clauses.holds_eq_and (clauses : Clauses Node) :
    (Node.clauses clauses).holds engine document =
      ((clauses.nodes .must).all (Node.holds engine document) &&
        ((clauses.nodes .filter).all (Node.holds engine document) &&
          (clauses.nodes .mustNot).all fun node =>
            !node.holds engine document) &&
        meetsMinimum clauses.minimumShould
          (clauses.verdicts engine document .should)) := by
  rw [Node.holds_clauses]
  simp only [verdicts, List.all_map, Bool.and_assoc]
  rfl

end Equations

end SearchQuery
