import SearchQuery.Leaf.Scope

/-!
# Ranges

A range has at most one bound on each side, and each bound admits its own value
or not. The order of bounds of one side, and the question whether a lower bound
stays below an upper one, carry the whole arithmetic of ranges.
-/

namespace SearchQuery

/-- The comparison at a lower bound. -/
inductive LowerComparison
  | gt
  | gte
  deriving DecidableEq

/-- The comparison at an upper bound. -/
inductive UpperComparison
  | lt
  | lte
  deriving DecidableEq

namespace LowerComparison

/-- The bound admits its own value. -/
def isInclusive (comparison : LowerComparison) : Bool := comparison == .gte

/-- The name of a comparison in documents. -/
def name : LowerComparison → String
  | .gt => "gt"
  | .gte => "gte"

/-- The comparison that admits exactly the values that this one excludes. -/
def complement : LowerComparison → UpperComparison
  | .gt => .lte
  | .gte => .lt

/-- The comparison with a name. -/
def ofName? (name : String) : Option LowerComparison :=
  if name = "gt" then some .gt else if name = "gte" then some .gte else none

end LowerComparison

namespace UpperComparison

/-- The bound admits its own value. -/
def isInclusive (comparison : UpperComparison) : Bool := comparison == .lte

/-- The name of a comparison in documents. -/
def name : UpperComparison → String
  | .lt => "lt"
  | .lte => "lte"

/-- The comparison that admits exactly the values that this one excludes. -/
def complement : UpperComparison → LowerComparison
  | .lt => .gte
  | .lte => .gt

/-- The comparison with a name. -/
def ofName? (name : String) : Option UpperComparison :=
  if name = "lt" then some .lt else if name = "lte" then some .lte else none

end UpperComparison

/-- A bound from below. -/
structure LowerBound where
  comparison : LowerComparison
  value : Value

/-- A bound from above. -/
structure UpperBound where
  comparison : UpperComparison
  value : Value

namespace LowerBound

/-- The value is not below the bound. -/
def admits (type : FieldType) (bound : LowerBound) (value : Value) : Bool :=
  match bound.value.order type value with
  | .lt => true
  | .eq => bound.comparison.isInclusive
  | .gt => false

/-- The values below the bound, as a bound from above. -/
def complement (bound : LowerBound) : UpperBound :=
  ⟨bound.comparison.complement, bound.value⟩

/-- Sameness of comparison and value. -/
def same (a b : LowerBound) : Bool :=
  a.comparison == b.comparison && a.value.same b.value

/-- The order by where the admitted values begin; no bound begins first. -/
def order (type : FieldType) : Option LowerBound → Option LowerBound → Ordering
  | none, none => .eq
  | none, some _ => .lt
  | some _, none => .gt
  | some a, some b =>
      (a.value.order type b.value).then
        (compare b.comparison.isInclusive.toNat a.comparison.isInclusive.toNat)

end LowerBound

namespace UpperBound

/-- The value is not above the bound. -/
def admits (type : FieldType) (bound : UpperBound) (value : Value) : Bool :=
  match value.order type bound.value with
  | .lt => true
  | .eq => bound.comparison.isInclusive
  | .gt => false

/-- The values above the bound, as a bound from below. -/
def complement (bound : UpperBound) : LowerBound :=
  ⟨bound.comparison.complement, bound.value⟩

/-- Sameness of comparison and value. -/
def same (a b : UpperBound) : Bool :=
  a.comparison == b.comparison && a.value.same b.value

/-- The order by where the admitted values end; no bound ends last. -/
def order (type : FieldType) : Option UpperBound → Option UpperBound → Ordering
  | none, none => .eq
  | none, some _ => .gt
  | some _, none => .lt
  | some a, some b =>
      (a.value.order type b.value).then
        (compare a.comparison.isInclusive.toNat b.comparison.isInclusive.toNat)

end UpperBound

/-- A lower bound stays below an upper one, or meets it in a value that both
admit. -/
def reaches (type : FieldType) : Option LowerBound → Option UpperBound → Bool
  | some lower, some upper =>
      match lower.value.order type upper.value with
      | .lt => true
      | .eq => lower.comparison.isInclusive && upper.comparison.isInclusive
      | .gt => false
  | _, _ => true

/-- A field holds a value between two bounds. -/
structure Range extends Scope where
  lower : Option LowerBound
  upper : Option UpperBound
  relation : Option String
  timeZone : Option String

namespace Range

/-- The range without bounds. -/
def unbounded (scope : Scope) : Range :=
  { toScope := scope, lower := none, upper := none, relation := none,
    timeZone := none }

/-- Set the lower bound. The value that stands for no bound takes it away. -/
def withLower (range : Range) (comparison : LowerComparison) (value : Value) :
    Range :=
  { range with
    lower := if value.isLeast then none else some ⟨comparison, value⟩ }

/-- Set the upper bound. The value that stands for no bound takes it away. -/
def withUpper (range : Range) (comparison : UpperComparison) (value : Value) :
    Range :=
  { range with
    upper := if value.isGreatest then none else some ⟨comparison, value⟩ }

/-- The type under which the bounds are compared. -/
def fieldType (range : Range) : FieldType := range.type.fieldType

/-- The value lies between the bounds. -/
def includes (range : Range) (value : Value) : Bool :=
  range.lower.all (·.admits range.fieldType value) &&
    range.upper.all (·.admits range.fieldType value)

/-- Each range begins before the other ends. -/
def overlaps (a b : Range) : Bool :=
  reaches a.fieldType a.lower b.upper && reaches a.fieldType b.lower a.upper

/-- The first range begins no later and ends no earlier than the second. -/
def contains (a b : Range) : Bool :=
  LowerBound.order a.fieldType a.lower b.lower != .gt &&
    UpperBound.order a.fieldType a.upper b.upper != .lt

/-- The bounds leave no place for a value. -/
def isEmpty (range : Range) : Bool :=
  !reaches range.fieldType range.lower range.upper

/-- Both bounds admit one value. -/
def isPoint (range : Range) : Bool :=
  match range.lower, range.upper with
  | some lower, some upper =>
      lower.comparison.isInclusive && upper.comparison.isInclusive &&
        lower.value.equal range.fieldType upper.value
  | _, _ => false

/-- Refuse a range whose bounds leave no place for a value. -/
def validate (range : Range) : Except Error Unit :=
  if range.isEmpty then .error (.emptyIntersection range.field) else .ok ()

/-- Agreement in everything but bounds and boost. -/
def sameOptions (a b : Range) : Bool :=
  a.filter == b.filter && a.relation == b.relation && a.timeZone == b.timeZone

/-- Make a bound that excludes the given value admit it, if there is one. -/
def widenTo? (range : Range) (value : Value) : Option Range :=
  let meets (bound : Value) : Bool := bound.equal range.fieldType value
  match range.lower, range.upper with
  | some ⟨.gt, lower⟩, upper =>
      if meets lower then some { range with lower := some ⟨.gte, lower⟩ }
      else
        match upper with
        | some ⟨.lt, upper⟩ =>
            if meets upper then some { range with upper := some ⟨.lte, upper⟩ }
            else none
        | _ => none
  | _, some ⟨.lt, upper⟩ =>
      if meets upper then some { range with upper := some ⟨.lte, upper⟩ }
      else none
  | _, _ => none

/-- The range that takes in a value inside it or on a bound that excludes it. -/
def takeIn? (range : Range) (value : Value) : Option Range :=
  if range.includes value then some range else range.widenTo? value

/-- Sameness of all parts. -/
def same (a b : Range) : Bool :=
  let sameLower :=
    match a.lower, b.lower with
    | none, none => true
    | some a, some b => a.same b
    | _, _ => false
  let sameUpper :=
    match a.upper, b.upper with
    | none, none => true
    | some a, some b => a.same b
    | _, _ => false
  a.toScope.same b.toScope && sameLower && sameUpper &&
    a.relation == b.relation &&
    a.timeZone == b.timeZone

end Range
end SearchQuery
