import SearchQuery.Algebra.Siblings

/-!
# The algebra of trees

Union, intersection and complement of condition trees. Clauses that come
together are merged group by group, and clauses that reduce to a single
condition are replaced by it.
-/

namespace SearchQuery

namespace Clauses

/-- The members of a node's group after the node is merged into it. A group that
is new has the node as its only member. -/
def grownGroup (operation : MergeOperation) (bucket : Bucket Node)
    (node : Node) :
    Except Error (List Node) :=
  match Bucket.find? node.key bucket with
  | some members => Siblings.absorb operation members node
  | none => .ok [node]

/-- Merge a node into the group of its key, among the clauses of one kind. -/
def absorb (clauses : Clauses Node) (occur : Occur) (operation : MergeOperation)
    (node : Node) : Except Error (Clauses Node) :=
  let bucket := clauses.bucket occur
  if node.isEmpty then .ok clauses
  else
    (grownGroup operation bucket node).map fun members =>
      (clauses.withBucket occur (Bucket.set node.key members bucket)).mark occur

/-- Merge nodes one after the other. -/
def absorbAll (clauses : Clauses Node) (occur : Occur)
    (operation : MergeOperation)
    (nodes : List Node) : Except Error (Clauses Node) :=
  nodes.foldlM (fun clauses node => clauses.absorb occur operation node) clauses

/-- The alternatives that a node with clauses stands for. -/
def disjuncts (clauses : Clauses Node) : List Node :=
  if clauses.isDisjunctive then clauses.nodes .should else [.clauses clauses]

/-- Add alternatives to a disjunction. -/
def addDisjuncts (clauses : Clauses Node) (nodes : List Node)
    (operators : Operators) :
    Except Error Node :=
  (clauses.absorbAll .should .union nodes).map fun merged =>
    { merged with operators := merged.operators.union operators }.node

/-- Take over all clauses of another node, where at most one side has
alternatives. What must not hold is merged by union, since neither part of a
union may hold. -/
def addConjuncts (clauses other : Clauses Node) : Except Error Node := do
  let merged ← clauses.absorbAll .must .inter (other.nodes .must)
  let merged ← merged.absorbAll .filter .inter (other.nodes .filter)
  let merged ← merged.absorbAll .mustNot .union (other.nodes .mustNot)
  let merged :=
    if other.should.isEmpty then merged
    else
      { merged with
        should := other.should
        minimumShould := max other.minimumShould 1 }
  return { merged with
    operators := merged.operators.union other.operators }.node

/-- Union of a node with clauses and a leaf. -/
def unionLeaf (clauses : Clauses Node) (leaf : Leaf) : Except Error Node :=
  if clauses.isEmpty then .ok (.leaf leaf)
  else if clauses.isDisjunctive then clauses.addDisjuncts [.leaf leaf] .empty
  else .ok (.either (.clauses clauses) (.leaf leaf))

/-- Union of two nodes with clauses. A disjunction takes in the other node, and
its alternatives if it is a disjunction as well. -/
def union (a b : Clauses Node) : Except Error Node :=
  if a.isEmpty then .ok (.clauses b)
  else if b.isEmpty then .ok (.clauses a)
  else if a.isDisjunctive then a.addDisjuncts b.disjuncts b.operators
  else if b.isDisjunctive then b.addDisjuncts [.clauses a] a.operators
  else .ok (.either (.clauses a) (.clauses b))

/-- Intersection of a node with clauses and a leaf. -/
def interLeaf (clauses : Clauses Node) (leaf : Leaf) : Except Error Node :=
  if clauses.isEmpty then .ok (.leaf leaf)
  else
    (clauses.absorb (if leaf.isFilter then .filter else .must) .inter
      (.leaf leaf)).map
      Clauses.node

/-- Intersection of two nodes with clauses. -/
def inter (a b : Clauses Node) : Except Error Node :=
  if a.isEmpty then .ok (.clauses b)
  else if b.isEmpty then .ok (.clauses a)
  else if a.should.isEmpty || b.should.isEmpty then a.addConjuncts b
  else .ok (.both (.clauses a) (.clauses b))

/-- The complement of a node with clauses. Alternatives become conditions that
must not hold, and the other way round. -/
def complement (clauses : Clauses Node) : Except Error Node :=
  if clauses.isEmpty then .error (.missingOperand "inverse")
  else
    let conjunctive := !clauses.must.isEmpty || !clauses.filter.isEmpty
    match conjunctive, !clauses.should.isEmpty, !clauses.mustNot.isEmpty with
    | true, false, false =>
        if clauses.count = 1 then
          match clauses.node with
          | .clauses content => .ok (.negated (.clauses content))
          | .leaf content => content.complement
        else .ok (.negated (.clauses clauses))
    | false, true, false =>
        if clauses.minimumShould ≤ 1 then
          .ok (.clauses (negation.addAll .mustNot (clauses.nodes .should)))
        else .ok (.negated (.clauses clauses))
    | false, false, true =>
        match clauses.nodes .mustNot with
        | [node] => .ok node
        | nodes => .ok (.clauses (disjunction.addAll .should nodes))
    | _, _, _ => .ok (.negated (.clauses clauses))

end Clauses

namespace Node

/-- The condition that holds where one of two conditions holds. -/
def union (a b : Node) : Except Error Node :=
  match a, b with
  | .leaf a, .leaf b => a.union b
  | a, b =>
      if a.same b then .ok a
      else
        match a, b with
        | .leaf .nothing, other => .ok other
        | other, .leaf .nothing => .ok other
        | .leaf (.everything boost), _ => .ok (.leaf (.everything boost))
        | _, .leaf (.everything boost) => .ok (.leaf (.everything boost))
        | .clauses a, .clauses b => a.union b
        | .clauses a, .leaf b => a.unionLeaf b
        | .leaf a, .clauses b => b.unionLeaf a
        | .leaf a, .leaf b => a.union b

/-- The condition that holds where both of two conditions hold. -/
def inter (a b : Node) : Except Error Node :=
  match a, b with
  | .leaf a, .leaf b => a.inter b
  | a, b =>
      if a.same b then .ok a
      else
        match a, b with
        | .leaf .nothing, other => .ok other
        | other, .leaf .nothing => .ok other
        | .leaf (.everything _), other => .ok other
        | other, .leaf (.everything _) => .ok other
        | .clauses a, .clauses b => a.inter b
        | .clauses a, .leaf b => a.interLeaf b
        | .leaf a, .clauses b => b.interLeaf a
        | .leaf a, .leaf b => a.inter b

/-- Merge two nodes by an operation. -/
def merge : MergeOperation → Node → Node → Except Error Node
  | .union => union
  | .inter => inter

theorem merge_leaf (operation : MergeOperation) (a b : Leaf) :
    merge operation (.leaf a) (.leaf b) = Leaf.merge operation a b := by
  cases operation <;> rfl

/-- The condition that holds where another does not. -/
def complement : Node → Except Error Node
  | .leaf content => content.complement
  | .clauses content => content.complement

/-- Merge any number of nodes from the left. There must be one to begin with. -/
def mergeAll (operation : MergeOperation) : List Node → Except Error Node
  | [] => .error (.missingOperand operation.name)
  | node :: rest => rest.foldlM (merge operation) node

/-- A node with a single clause gives way to the clause. -/
def collapsed : Node → Node
  | .leaf content => .leaf content
  | .clauses content => content.node

end Node
end SearchQuery
