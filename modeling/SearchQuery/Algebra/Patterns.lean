import SearchQuery.Node.Basic

/-!
# Merging patterns with exact values

On a text field that is not analyzed, a value is described by a pattern or it is
not. Described values are taken in under union, and take the place of the
pattern under intersection.
-/

namespace SearchQuery

namespace Leaf

/-- The values that an exact leaf asks for, with its scope. -/
def exactValues? : Leaf → Option (Scope × List Value)
  | .term content => some (content.toScope, [content.value])
  | .valueSet content => some (content.toScope, content.values)
  | _ => none

end Leaf

namespace Pattern

/-- The values of an exact leaf, split by whether a pattern describes them. -/
structure Split where
  scope : Scope
  matched : List Value
  unmatched : List Value

/-- The pattern describes the text of a value. -/
def holdsOf (holds : String → Bool) (value : Value) : Bool :=
  value.text?.any holds

/-- The pattern is about whole values, not about words of them. -/
def isOnValues (pattern : Pattern) : Bool :=
  pattern.type.fieldType.family == .string && !pattern.type.fieldType.isAnalyzed

/-- Split the values of an exact leaf, if the pattern is about them. -/
def split? (pattern : Pattern) (leaf : Leaf) : Except Error (Option Split) :=
  match pattern.isOnValues, leaf.exactValues? with
  | true, some (scope, values) =>
      pattern.matcher.predicate.map fun holds =>
        some ⟨scope, values.filter (holdsOf holds),
          values.filter fun value => !holdsOf holds value⟩
  | _, _ => .ok none

/-- Union with a leaf whose values are split. -/
def unionSplit (pattern : Pattern) (leaf : Leaf) (split : Split) :
    Except Error Node :=
  if split.matched.isEmpty then
    .ok (.either (.leaf (.pattern pattern)) (.leaf leaf))
  else
    agreed pattern.field pattern.boost leaf.boost <|
      if split.unmatched.isEmpty then .leaf (.pattern pattern)
      else
        .either (.leaf (.pattern pattern))
          (.leaf (ValueSet.ofValues split.scope split.unmatched).leaf)

/-- The pattern takes in the described values, and the rest stays beside it. -/
def union (pattern : Pattern) (leaf : Leaf) : Except Error Node := do
  match ← pattern.split? leaf with
  | none => .ok (.either (.leaf (.pattern pattern)) (.leaf leaf))
  | some split => pattern.unionSplit leaf split

/-- Intersection with a leaf whose values are split. -/
def interSplit (pattern : Pattern) (leaf : Leaf) (split : Split) :
    Except Error Node :=
  let collapses :=
    if pattern.type.isArray then split.unmatched.isEmpty
    else !split.matched.isEmpty
  if collapses then
    agreed pattern.field pattern.boost leaf.boost
      (.leaf (ValueSet.ofValues split.scope split.matched).leaf)
  else .ok (.both (.leaf (.pattern pattern)) (.leaf leaf))

/-- The described values take the place of both. On an array field this holds
only when all of them are described. -/
def inter (pattern : Pattern) (leaf : Leaf) : Except Error Node := do
  match ← pattern.split? leaf with
  | none => .ok (.both (.leaf (.pattern pattern)) (.leaf leaf))
  | some split => pattern.interSplit leaf split

end Pattern
end SearchQuery
