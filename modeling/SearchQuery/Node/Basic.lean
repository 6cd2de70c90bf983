import SearchQuery.Leaf.Basic

/-!
# Condition trees

A tree is a leaf or a group of clauses: conditions that must hold, with or
without scoring, alternatives of which a number must hold, and conditions that
must not hold. The clauses of one kind are kept in groups by merge key, in the
order in which the keys first came.
-/

namespace SearchQuery

/-- What the members of a group have in common: the field of leaves, or that
they have clauses of their own. -/
inductive MergeKey
  | field (name : String)
  | operator
  deriving DecidableEq

namespace MergeKey

/-- The text of a key. A field may have the text that stands for clauses, and is
another key even so. -/
def text : MergeKey → String
  | .field name => name
  | .operator => "@bool"

end MergeKey

/-- The kinds of clauses. -/
inductive Occur
  | must
  | filter
  | should
  | mustNot
  deriving DecidableEq

namespace Occur

/-- All kinds of clauses, in the order of documents. -/
def all : List Occur := [.must, .filter, .should, .mustNot]

/-- The name of a kind of clauses in documents. -/
def name : Occur → String
  | .must => "must"
  | .filter => "filter"
  | .should => "should"
  | .mustNot => "must_not"

/-- The kind of clauses with a name. -/
def ofName? (name : String) : Option Occur := all.find? (·.name == name)

end Occur

/-- Which logical operators a group of clauses was built from. -/
structure Operators where
  conjunction : Bool
  disjunction : Bool
  negation : Bool
  deriving DecidableEq

namespace Operators

/-- No operator. -/
def empty : Operators := ⟨false, false, false⟩

/-- The operator that a kind of clause stands for. -/
def ofOccur : Occur → Operators
  | .must | .filter => ⟨true, false, false⟩
  | .should => ⟨false, true, false⟩
  | .mustNot => ⟨false, false, true⟩

/-- The operators of either side. -/
def union (a b : Operators) : Operators :=
  ⟨a.conjunction || b.conjunction, a.disjunction || b.disjunction,
    a.negation || b.negation⟩

/-- The names of the operators that are present. -/
def names (operators : Operators) : List String :=
  (if operators.conjunction then ["and"] else []) ++
    (if operators.disjunction then ["or"] else []) ++
    (if operators.negation then ["not"] else [])

end Operators

/-- The members with one merge key. -/
structure Group (α : Type) where
  key : MergeKey
  members : List α

/-- The clauses of one kind. -/
abbrev Bucket (α : Type) := List (Group α)

namespace Bucket

variable {α : Type}

/-- All members, group by group. -/
def nodes (bucket : Bucket α) : List α := bucket.flatMap Group.members

/-- The members of a key, if it is present. -/
def find? (key : MergeKey) : Bucket α → Option (List α)
  | [] => none
  | group :: rest =>
      if group.key = key then some group.members else find? key rest

/-- Replace the members of a key, which gets a place at the end if it is new. -/
def set (key : MergeKey) (members : List α) : Bucket α → Bucket α
  | [] => [⟨key, members⟩]
  | group :: rest =>
      if group.key = key then ⟨key, members⟩ :: rest
      else group :: set key members rest

/-- Put a member at the end of its group. -/
def push (key : MergeKey) (member : α) (bucket : Bucket α) : Bucket α :=
  bucket.set key ((bucket.find? key).getD [] ++ [member])

end Bucket

/-- The clauses of a node: four buckets, the operators they were built from, and
how many alternatives must hold. -/
structure Clauses (α : Type) where
  must : List (Group α)
  filter : List (Group α)
  should : List (Group α)
  mustNot : List (Group α)
  operators : Operators
  minimumShould : Nat

/-- A condition tree. -/
inductive Node
  | leaf (content : Leaf)
  | clauses (content : Clauses Node)

namespace Clauses

variable {α : Type}

/-- No clauses, not even the promise of an operator. -/
def empty : Clauses α := ⟨[], [], [], [], .empty, 0⟩

/-- The start of a conjunction. -/
def conjunction : Clauses α := { empty with operators := .ofOccur .must }

/-- The start of a disjunction, of which one alternative must hold. -/
def disjunction : Clauses α :=
  { empty with operators := .ofOccur .should, minimumShould := 1 }

/-- The start of a negation. -/
def negation : Clauses α := { empty with operators := .ofOccur .mustNot }

/-- The clauses of one kind. -/
def bucket (clauses : Clauses α) : Occur → Bucket α
  | .must => clauses.must
  | .filter => clauses.filter
  | .should => clauses.should
  | .mustNot => clauses.mustNot

/-- Replace the clauses of one kind. -/
def withBucket (clauses : Clauses α) (occur : Occur) (bucket : Bucket α) :
    Clauses α :=
  match occur with
  | .must => { clauses with must := bucket }
  | .filter => { clauses with filter := bucket }
  | .should => { clauses with should := bucket }
  | .mustNot => { clauses with mustNot := bucket }

/-- No clauses of any kind. -/
def isEmpty (clauses : Clauses α) : Bool :=
  clauses.must.isEmpty && clauses.should.isEmpty && clauses.mustNot.isEmpty &&
    clauses.filter.isEmpty

/-- The clauses of one kind, group by group. -/
def nodes (clauses : Clauses α) (occur : Occur) : List α :=
  Bucket.nodes (clauses.bucket occur)

/-- How many clauses there are. -/
def count (clauses : Clauses α) : Nat :=
  (clauses.nodes .must).length + (clauses.nodes .filter).length +
    (clauses.nodes .should).length + (clauses.nodes .mustNot).length

/-- Note that clauses of a kind came in. Alternatives ask for at least one of
them. -/
def mark (clauses : Clauses α) (occur : Occur) : Clauses α :=
  { clauses with
    operators := clauses.operators.union (.ofOccur occur)
    minimumShould :=
      if occur = .should ∧ clauses.minimumShould = 0 then 1
      else clauses.minimumShould }

/-- Only alternatives, of which at most one needs to hold. -/
def isDisjunctive (clauses : Clauses α) : Bool :=
  !clauses.should.isEmpty && clauses.must.isEmpty && clauses.filter.isEmpty &&
    clauses.mustNot.isEmpty && clauses.minimumShould ≤ 1

end Clauses

namespace Node

/-- The name of the kind of a node. -/
def kind : Node → String
  | .leaf content => content.kind
  | .clauses _ => "bool"

/-- Nodes with one key are put in one group. -/
def key : Node → MergeKey
  | .leaf content => .field content.key
  | .clauses _ => .operator

/-- The node has clauses. -/
def isOperator : Node → Bool
  | .leaf _ => false
  | .clauses _ => true

/-- The node states no condition. -/
def isEmpty : Node → Bool
  | .leaf content => content.isNothing
  | .clauses content => content.isEmpty

/-- The field that a leaf constrains. -/
def field? : Node → Option String
  | .leaf content => content.field?
  | .clauses _ => none

/-- The weight of a leaf; clauses have weights of their own. -/
def boost : Node → Binary64
  | .leaf content => content.boost
  | .clauses _ => .one

/-- The node is a leaf whose matches are not scored. -/
def isFilter : Node → Bool
  | .leaf content => content.isFilter
  | .clauses _ => false

end Node

namespace Clauses

/-- Append a clause without merging it. No condition adds no clause. -/
def add (clauses : Clauses Node) (occur : Occur) (node : Node) : Clauses Node :=
  match node with
  | .leaf .nothing => clauses
  | node =>
      (clauses.withBucket occur
        ((clauses.bucket occur).push node.key node)).mark occur

/-- Append a clause that must hold, with or without scoring as the node says. -/
def addConjunct (clauses : Clauses Node) (node : Node) : Clauses Node :=
  clauses.add (if node.isFilter then .filter else .must) node

/-- Append clauses in turn. -/
def addAll (clauses : Clauses Node) (occur : Occur) (nodes : List Node) :
    Clauses Node :=
  nodes.foldl (fun clauses node => clauses.add occur node) clauses

/-- A single clause that must hold, or is the only alternative, stands for
itself. -/
def node (clauses : Clauses Node) : Node :=
  if clauses.count = 1 ∧ clauses.mustNot.isEmpty ∧
      clauses.minimumShould ≤ 1 then
    (clauses.nodes .must ++ clauses.nodes .filter ++
      clauses.nodes .should).headD (.leaf .nothing)
  else .clauses clauses

end Clauses

namespace Node

/-- Two nodes side by side, of which one must hold. -/
def either (left right : Node) : Node :=
  .clauses ((Clauses.disjunction.add .should left).add .should right)

/-- Two nodes side by side, which both must hold. -/
def both (left right : Node) : Node :=
  .clauses ((Clauses.conjunction.addConjunct left).addConjunct right)

/-- The negation of a node. -/
def negated (node : Node) : Node :=
  .clauses (Clauses.negation.add .mustNot node)

mutual

/-- Sameness of trees. The order of the keys in a bucket does not count; the
order in a group does. -/
def same : Node → Node → Bool
  | .leaf a, .leaf b => a.same b
  | .clauses a, .clauses b => sameClauses a b
  | _, _ => false

/-- Sameness of clauses: of the four kinds, the operators and the number of
alternatives. -/
def sameClauses : Clauses Node → Clauses Node → Bool
  | ⟨must, filter, should, mustNot, operators, minimumShould⟩, other =>
      must.length == other.must.length && sameBucket must other.must &&
        (filter.length == other.filter.length &&
          sameBucket filter other.filter) &&
        (should.length == other.should.length &&
          sameBucket should other.should) &&
        (mustNot.length == other.mustNot.length &&
          sameBucket mustNot other.mustNot) &&
        operators == other.operators && minimumShould == other.minimumShould

/-- Every group has a group of the same key and members in the other bucket. -/
def sameBucket : List (Group Node) → Bucket Node → Bool
  | [], _ => true
  | group :: rest, other => sameGroup group other && sameBucket rest other

/-- The other bucket has a group of the same key and members. -/
def sameGroup : Group Node → Bucket Node → Bool
  | ⟨key, members⟩, other =>
      match other.find? key with
      | some others => sameMembers members others
      | none => false

/-- Sameness of lists of nodes, one by one. -/
def sameMembers : List Node → List Node → Bool
  | [], [] => true
  | a :: restA, b :: restB => same a b && sameMembers restA restB
  | _, _ => false

end

end Node
end SearchQuery
