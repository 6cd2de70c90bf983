import SearchQuery.Node.Basic

/-!
# Merging ranges

Overlapping ranges join to their outer envelope and meet in their inner one. On
an array field different elements may meet the two ranges, so there only a range
inside the other takes its place. Exact values are taken in by a range that they
lie in or touch.
-/

namespace SearchQuery
namespace Range

/-- The range from the earlier lower bound to the later upper bound. -/
def outer (a b : Range) : Range :=
  { a with
    lower :=
      if LowerBound.order a.fieldType a.lower b.lower = .gt then b.lower
      else a.lower
    upper :=
      if UpperBound.order a.fieldType a.upper b.upper = .lt then b.upper
      else a.upper }

/-- The range from the later lower bound to the earlier upper bound. -/
def inner (a b : Range) : Range :=
  { a with
    lower :=
      if LowerBound.order a.fieldType a.lower b.lower = .lt then b.lower
      else a.lower
    upper :=
      if UpperBound.order a.fieldType a.upper b.upper = .gt then b.upper
      else a.upper }

/-- The envelope of overlapping ranges with the same options; other ranges stay
side by side. -/
def union (a b : Range) : Except Error Node :=
  if a.overlaps b && a.sameOptions b then
    agreed a.field a.boost b.boost (.leaf (.range (a.outer b)))
  else .ok (.either (.leaf (.range a)) (.leaf (.range b)))

/-- The common part of ranges with the same options, which must overlap on a
field with one value. -/
def inter (a b : Range) : Except Error Node :=
  let together := Node.both (.leaf (.range a)) (.leaf (.range b))
  if !a.sameOptions b then .ok together
  else if a.type.isArray then
    if b.contains a then agreed a.field a.boost b.boost (.leaf (.range a))
    else if a.contains b then agreed a.field a.boost b.boost (.leaf (.range b))
    else .ok together
  else if a.overlaps b then
    agreed a.field a.boost b.boost (.leaf (.range (a.inner b)))
  else .error (.emptyIntersection a.field)

/-- The range takes in the value of a term inside it or on a bound. -/
def unionTerm (range : Range) (term : Term) : Except Error Node :=
  match range.takeIn? term.value with
  | some wider =>
      agreed range.field range.boost term.boost (.leaf (.range wider))
  | none => .ok (.either (.leaf (.range range)) (.leaf (.term term)))

/-- A term inside the range takes its place. -/
def interTerm (range : Range) (term : Term) : Except Error Node :=
  if range.includes term.value then
    agreed range.field range.boost term.boost (.leaf (.term term))
  else .ok (.both (.leaf (.range range)) (.leaf (.term term)))

/-- Take in values one after the other, each by the range as the ones before it
left it. The values that stay outside come with the range. -/
def takeInAll (range : Range) : List Value → Range × List Value
  | [] => (range, [])
  | value :: rest =>
      match range.takeIn? value with
      | some wider => wider.takeInAll rest
      | none =>
          let (wider, outside) := range.takeInAll rest
          (wider, value :: outside)

/-- The range takes in what it can of a set of values, and the rest stays beside
it. -/
def unionValues (range : Range) (set : ValueSet) : Except Error Node :=
  let (wider, outside) := range.takeInAll set.values
  if outside.length = set.values.length then
    .ok (.either (.leaf (.range wider)) (.leaf (.valueSet set)))
  else
    agreed range.field range.boost set.boost <|
      match (ValueSet.ofValues set.toScope outside).leaf with
      | .nothing => .leaf (.range wider)
      | rest => .either (.leaf (.range wider)) (.leaf rest)

/-- The values inside the range take the place of both. On an array field this
holds only when all of them are inside. -/
def interValues (range : Range) (set : ValueSet) : Except Error Node :=
  let inside := set.values.filter range.includes
  let collapses :=
    if range.type.isArray then inside.length == set.values.length
    else !inside.isEmpty
  if collapses then
    agreed range.field range.boost set.boost
      (.leaf (ValueSet.ofValues set.toScope inside).leaf)
  else .ok (.both (.leaf (.range range)) (.leaf (.valueSet set)))

/-- The values outside the range: those below it, those above it, or a missing
field where the range has no bounds. On an array field nothing shorter is
known. -/
def complement (range : Range) : Node :=
  if range.type.isArray then .negated (.leaf (.range range))
  else
    let below (bound : LowerBound) : Node :=
      .leaf
        (.range { range with lower := none, upper := some bound.complement })
    let above (bound : UpperBound) : Node :=
      .leaf
        (.range { range with lower := some bound.complement, upper := none })
    match range.lower, range.upper with
    | some lower, some upper => .either (below lower) (above upper)
    | some lower, none => below lower
    | none, some upper => above upper
    | none, none => .negated (.leaf (.presence ⟨range.field, range.filter⟩))

end Range
end SearchQuery
