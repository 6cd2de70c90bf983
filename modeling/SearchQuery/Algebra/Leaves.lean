import SearchQuery.Algebra.Patterns
import SearchQuery.Algebra.Ranges
import SearchQuery.Algebra.Values

/-!
# Merging leaves

Two leaves merge by the rule of their kinds when they have one key. Leaves
without a rule of their own merge when they ask for the same; all others stay
side by side.
-/

namespace SearchQuery

/-- The operations that merge two conditions to one. -/
inductive MergeOperation
  | union
  | inter
  deriving DecidableEq

namespace MergeOperation

/-- The name of an operation in messages. -/
def name : MergeOperation → String
  | .union => "union"
  | .inter => "intersect"

end MergeOperation

namespace Leaf

/-- One of two leaves that ask for the same, or else what `apart` makes of
them. -/
def mergeSame (apart : Node → Node → Node) (a b : Leaf) : Except Error Node :=
  if a.sameCondition b then agreed (a.field?.getD "") a.boost b.boost (.leaf a)
  else .ok (apart (.leaf a) (.leaf b))

/-- Union of two leaves with one key. -/
def unionAtKey (a b : Leaf) : Except Error Node :=
  match a, b with
  | .presence content, _ => .ok (.leaf (.presence content))
  | _, .presence content => .ok (.leaf (.presence content))
  | .ids x, .ids y => x.union y
  | .ids _, other => .error (.typeMismatch "ids" other.kind)
  | other, .ids _ => .error (.typeMismatch "ids" other.kind)
  | .term x, .term y => x.union y
  | .valueSet x, .term y => x.unionTerm y
  | .term y, .valueSet x => x.unionTerm y
  | .valueSet x, .valueSet y => x.union y
  | .range x, .range y => x.union y
  | .range x, .term y => x.unionTerm y
  | .term y, .range x => x.unionTerm y
  | .range x, .valueSet y => x.unionValues y
  | .valueSet y, .range x => x.unionValues y
  | .pattern x, .term y => x.union (.term y)
  | .pattern x, .valueSet y => x.union (.valueSet y)
  | .term y, .pattern x => x.union (.term y)
  | .valueSet y, .pattern x => x.union (.valueSet y)
  | a, b => mergeSame .either a b

/-- Intersection of two leaves with one key. -/
def interAtKey (a b : Leaf) : Except Error Node :=
  match a, b with
  | .presence _, other => .ok (.leaf other)
  | other, .presence _ => .ok (.leaf other)
  | .ids x, .ids y => x.inter y
  | .ids _, other => .error (.typeMismatch "ids" other.kind)
  | other, .ids _ => .error (.typeMismatch "ids" other.kind)
  | .term x, .term y => x.inter y
  | .valueSet x, .term y => x.interTerm y
  | .term y, .valueSet x => x.interTerm y
  | .valueSet x, .valueSet y => x.inter y
  | .range x, .range y => x.inter y
  | .range x, .term y => x.interTerm y
  | .term y, .range x => x.interTerm y
  | .range x, .valueSet y => x.interValues y
  | .valueSet y, .range x => x.interValues y
  | .pattern x, .term y => x.inter (.term y)
  | .pattern x, .valueSet y => x.inter (.valueSet y)
  | .term y, .pattern x => x.inter (.term y)
  | .valueSet y, .pattern x => x.inter (.valueSet y)
  | a, b => mergeSame .both a b

/-- Union of two leaves. Everything takes in all else. -/
def union (a b : Leaf) : Except Error Node :=
  if a.same b then .ok (.leaf a)
  else
    match a, b with
    | .nothing, other => .ok (.leaf other)
    | other, .nothing => .ok (.leaf other)
    | .everything boost, _ => .ok (.leaf (.everything boost))
    | _, .everything boost => .ok (.leaf (.everything boost))
    | a, b =>
        if a.key = b.key then unionAtKey a b
        else .ok (.either (.leaf a) (.leaf b))

/-- Intersection of two leaves. Everything yields to all else. -/
def inter (a b : Leaf) : Except Error Node :=
  if a.same b then .ok (.leaf a)
  else
    match a, b with
    | .nothing, other => .ok (.leaf other)
    | other, .nothing => .ok (.leaf other)
    | .everything _, other => .ok (.leaf other)
    | other, .everything _ => .ok (.leaf other)
    | a, b =>
        if a.key = b.key then interAtKey a b
        else .ok (.both (.leaf a) (.leaf b))

/-- Merge two leaves by an operation. -/
def merge : MergeOperation → Leaf → Leaf → Except Error Node
  | .union => union
  | .inter => inter

/-- The complement of a leaf. -/
def complement : Leaf → Except Error Node
  | .nothing => .error (.missingOperand "inverse")
  | .range content => .ok content.complement
  | .valueSet content => .ok content.complement
  | leaf => .ok (.negated (.leaf leaf))

end Leaf
end SearchQuery
