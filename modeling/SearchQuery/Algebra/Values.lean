import SearchQuery.Node.Basic

/-!
# Merging exact values

A field with one value per document cannot hold two different values, so there
intersection is that of sets, and an empty one is a conflict. A field with
several values may meet each side by another value, so there only a set inside
the other takes its place.
-/

namespace SearchQuery

namespace Term

/-- Terms of different values widen to a set. -/
def union (a b : Term) : Except Error Node :=
  agreed a.field a.boost b.boost <| .leaf <|
    if a.accepts b.value then .term a
    else (ValueSet.ofValues a.toScope [a.value, b.value]).leaf

/-- Terms of different values exclude each other unless the field is an
array. -/
def inter (a b : Term) : Except Error Node :=
  if a.accepts b.value then agreed a.field a.boost b.boost (.leaf (.term a))
  else if a.type.isArray then .ok (.both (.leaf (.term a)) (.leaf (.term b)))
  else .error (.valueConflict a.field a.value.display b.value.display)

end Term

namespace ValueSet

/-- All values of both sets. -/
def union (a b : ValueSet) : Except Error Node :=
  agreed a.field a.boost b.boost <|
    .leaf (ofValues a.toScope (a.values ++ b.values)).leaf

/-- The set with the value of a term. -/
def unionTerm (set : ValueSet) (term : Term) : Except Error Node :=
  agreed set.field set.boost term.boost <| .leaf <|
    if set.contains term.value then set.leaf else (set.insert term.value).leaf

/-- The values of both sets, or the smaller set on an array field. -/
def inter (a b : ValueSet) : Except Error Node :=
  if a.type.isArray then
    if a.isSubset b then agreed a.field a.boost b.boost (.leaf a.leaf)
    else if b.isSubset a then agreed a.field a.boost b.boost (.leaf b.leaf)
    else .ok (.both (.leaf (.valueSet a)) (.leaf (.valueSet b)))
  else
    let common := a.values.filter b.contains
    if common.isEmpty then .error (.valueConflict a.field a.display b.display)
    else agreed a.field a.boost b.boost (.leaf (ofValues a.toScope common).leaf)

/-- A term whose value is in the set takes its place. -/
def interTerm (set : ValueSet) (term : Term) : Except Error Node :=
  if set.contains term.value then
    agreed set.field set.boost term.boost (.leaf (.term term))
  else if set.type.isArray then
    .ok (.both (.leaf (.valueSet set)) (.leaf (.term term)))
  else .error (.valueConflict set.field set.display term.value.display)

/-- None of the values may occur. -/
def complement (set : ValueSet) : Node :=
  .clauses <| Clauses.negation.addAll .mustNot <|
    set.values.map fun value =>
      .leaf (.term { toScope := set.toScope, value := value })

end ValueSet

namespace IdSet

/-- The identifiers of both sets. -/
def union (a b : IdSet) : Except Error Node :=
  agreed IdSet.field a.boost b.boost <|
    .leaf (.ids (.ofValues a.boost (a.values ++ b.values)))

/-- The common identifiers. A document has one identifier, so there must be
one. -/
def inter (a b : IdSet) : Except Error Node :=
  let common := a.values.filter b.contains
  if common.isEmpty then
    .error (.valueConflict IdSet.field (String.intercalate "," a.values)
      (String.intercalate "," b.values))
  else agreed IdSet.field a.boost b.boost
    (.leaf (.ids (.ofValues a.boost common)))

end IdSet
end SearchQuery
