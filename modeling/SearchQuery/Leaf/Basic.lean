import SearchQuery.Leaf.FullText
import SearchQuery.Leaf.IdSet
import SearchQuery.Leaf.Pattern
import SearchQuery.Leaf.Range
import SearchQuery.Leaf.ValueSet

/-!
# Leaves

A leaf is a condition without parts. Most leaves constrain one field and carry a
scope; `nothing` is no condition at all, the neutral element of union and
intersection.
-/

namespace SearchQuery

/-- A document holds some value in a field. -/
structure Presence where
  field : String
  filter : Bool
  deriving DecidableEq

/-- A condition without parts. -/
inductive Leaf
  | term (term : Term)
  | valueSet (set : ValueSet)
  | range (range : Range)
  | fullText (text : FullText)
  | phrase (phrase : Phrase)
  | pattern (pattern : Pattern)
  | presence (presence : Presence)
  | ids (ids : IdSet)
  | queryText (query : QueryText)
  | everything (boost : Binary64)
  | nothing

namespace ValueSet

/-- The smallest leaf for a set of values: nothing for none of them, a term for
one. -/
def leaf (set : ValueSet) : Leaf :=
  match set.values with
  | [] => .nothing
  | [value] => .term { toScope := set.toScope, value := value }
  | _ => .valueSet set

end ValueSet

namespace Leaf

/-- The key under which conditions on the whole index are merged. -/
def everythingKey : String := "*"

/-- The name of the kind of a leaf. -/
def kind : Leaf → String
  | .term _ => "term"
  | .valueSet _ => "terms"
  | .range _ => "range"
  | .fullText _ => "match"
  | .phrase content => content.kind
  | .pattern content => content.matcher.kind
  | .presence _ => "exists"
  | .ids _ => "ids"
  | .queryText _ => "query_string"
  | .everything _ => "match_all"
  | .nothing => "empty"

/-- The scope of a leaf that has one. -/
def scope? : Leaf → Option Scope
  | .term content => some content.toScope
  | .valueSet content => some content.toScope
  | .range content => some content.toScope
  | .fullText content => some content.toScope
  | .phrase content => some content.toScope
  | .pattern content => some content.toScope
  | .presence _ | .ids _ | .queryText _ | .everything _ | .nothing => none

/-- The field that a leaf constrains. -/
def field? : Leaf → Option String
  | .presence content => some content.field
  | .queryText content => content.defaultField
  | leaf => leaf.scope?.map (·.field)

/-- Leaves with one key are merged with each other. -/
def key : Leaf → String
  | .ids _ => IdSet.field
  | .everything _ => everythingKey
  | leaf => leaf.field?.getD ""

/-- The weight of a match; one where a leaf has none of its own. -/
def boost : Leaf → Binary64
  | .ids content => content.boost
  | .queryText content => content.boost
  | .everything content => content
  | leaf => (leaf.scope?.map (·.boost)).getD .one

/-- Matches are not scored. -/
def isFilter : Leaf → Bool
  | .presence content => content.filter
  | leaf => (leaf.scope?.map (·.filter)).getD false

/-- The leaf states no condition. -/
def isNothing : Leaf → Bool
  | .nothing => true
  | _ => false

/-- Sameness of all parts, with boosts compared as numbers. -/
def same : Leaf → Leaf → Bool
  | .term a, .term b => a.same b
  | .valueSet a, .valueSet b => a.same b
  | .range a, .range b => a.same b
  | .fullText a, .fullText b => a.same b
  | .phrase a, .phrase b => a.same b
  | .pattern a, .pattern b => a.same b
  | .presence a, .presence b => a == b
  | .ids a, .ids b => a.same b
  | .queryText a, .queryText b => a.same b
  | .everything a, .everything b => a.equals b
  | .nothing, .nothing => true
  | _, _ => false

/-- The leaf without its weight and its scoring. -/
def bare : Leaf → Leaf
  | .term content => .term { content with toScope := content.toScope.bare }
  | .valueSet content =>
      .valueSet { content with toScope := content.toScope.bare }
  | .range content => .range { content with toScope := content.toScope.bare }
  | .fullText content =>
      .fullText { content with toScope := content.toScope.bare }
  | .phrase content => .phrase { content with toScope := content.toScope.bare }
  | .pattern content =>
      .pattern { content with toScope := content.toScope.bare }
  | .presence content => .presence { content with filter := false }
  | .ids content => .ids { content with boost := .one }
  | .queryText content => .queryText { content with boost := .one }
  | .everything _ => .everything .one
  | .nothing => .nothing

/-- Two leaves ask for the same, whatever their weight and scoring. -/
def sameCondition (a b : Leaf) : Bool := a.bare.same b.bare

end Leaf
end SearchQuery
