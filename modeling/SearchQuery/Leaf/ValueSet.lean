import SearchQuery.Leaf.Halving
import SearchQuery.Leaf.Scope

/-!
# Exact values

A term asks for one value and a value set for any of several. The values of a
set are in increasing order under the type of the field, and no two are equal.
-/

namespace SearchQuery

/-- A field holds a value. -/
structure Term extends Scope where
  value : Value

/-- A field holds one of several values. -/
structure ValueSet extends Scope where
  values : List Value

namespace Term

/-- The term asks for a value equal to the given one. -/
def accepts (term : Term) (value : Value) : Bool := term.equal term.value value

/-- Sameness of scope and value. -/
def same (a b : Term) : Bool := a.toScope.same b.toScope && a.value.same b.value

end Term

namespace ValueSet

/-- Drop each value that equals the last one that stays, which is `previous` at
first. -/
def dropRepeatedAfter (scope : Scope) (previous : Value) :
    List Value → List Value
  | [] => []
  | value :: rest =>
      if scope.equal value previous then dropRepeatedAfter scope previous rest
      else value :: dropRepeatedAfter scope value rest

/-- Drop each value that equals the last one that stays. -/
def dropRepeated (scope : Scope) : List Value → List Value
  | [] => []
  | value :: rest => value :: dropRepeatedAfter scope value rest

/-- Put a value into values in decreasing order, in front of those that are not
greater. -/
def insertDescending (scope : Scope) (value : Value) : List Value → List Value
  | [] => [value]
  | greatest :: rest =>
      if scope.order value greatest = .lt then
        greatest :: insertDescending scope value rest
      else value :: greatest :: rest

/-- The values in decreasing order; equal values are in the reverse of the order
in which they came. -/
def descending (scope : Scope) (values : List Value) : List Value :=
  values.foldl (fun sorted value => insertDescending scope value sorted) []

/-- The values in increasing order without repetition. Of equal values the one
that came first stays. -/
def arrange (scope : Scope) (values : List Value) : List Value :=
  dropRepeated scope (descending scope values).reverse

/-- The set of the given values. -/
def ofValues (scope : Scope) (values : List Value) : ValueSet :=
  { toScope := scope, values := arrange scope values }

/-- The set of the value of a term. -/
def ofTerm (term : Term) : ValueSet := ofValues term.toScope [term.value]

/-- The set with one more value. -/
def insert (set : ValueSet) (value : Value) : ValueSet :=
  ofValues set.toScope (set.values ++ [value])

/-- Some value of the set equals the given one. -/
def contains (set : ValueSet) (value : Value) : Bool :=
  (Halving.floorOrFirst? (fun middle => set.order middle value = .gt)
    set.values).any
    fun member => set.equal member value

/-- Every value of the first set is in the second. -/
def isSubset (a b : ValueSet) : Bool := a.values.all b.contains

/-- The values in messages. -/
def display (set : ValueSet) : String :=
  "[" ++ String.intercalate ", " (set.values.map Value.display) ++ "]"

/-- Sameness of values, one by one. -/
def sameValues : List Value → List Value → Bool
  | [], [] => true
  | a :: restA, b :: restB => a.same b && sameValues restA restB
  | _, _ => false

/-- Sameness of scope and values. -/
def same (a b : ValueSet) : Bool :=
  a.toScope.same b.toScope && sameValues a.values b.values

end ValueSet
end SearchQuery
