import SearchQuery.Error
import SearchQuery.Value.Order

/-!
# Scope of a condition

What every condition on a field carries besides its own content: the field, the
type that the field has, the weight of a match, and whether matches are scored.
-/

namespace SearchQuery

/-- The common part of the conditions on a field. -/
structure Scope where
  field : String
  type : ValueType
  boost : Binary64
  filter : Bool
  deriving DecidableEq

namespace Scope

/-- Values are ordered under the type of the field. -/
def order (scope : Scope) (a b : Value) : Ordering :=
  a.order scope.type.fieldType b

/-- Equality of values under the type of the field. -/
def equal (scope : Scope) (a b : Value) : Bool := a.equal scope.type.fieldType b

/-- Sameness of all parts, with the boosts compared as numbers. -/
def same (a b : Scope) : Bool :=
  a.field == b.field && a.type == b.type && a.boost.equals b.boost &&
    a.filter == b.filter

/-- The scope without its weight and its scoring. -/
def bare (scope : Scope) : Scope :=
  { scope with boost := .one, filter := false }

end Scope

/-- Merged conditions must have one weight. -/
def agreeOnBoost (field : String) (left right : Binary64) : Except Error Unit :=
  if left.equals right then .ok () else .error (.boostConflict field left right)

/-- The result of a merge, provided that the merged conditions have one
weight. -/
def agreed (field : String) (left right : Binary64) {α : Type} (result : α) :
    Except Error α :=
  (agreeOnBoost field left right).map fun _ => result

end SearchQuery
