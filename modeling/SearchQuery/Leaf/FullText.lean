import SearchQuery.Leaf.Fuzziness
import SearchQuery.Leaf.Scope
import SearchQuery.Text.Blank

/-!
# Analyzed text

Conditions that the search engine evaluates on the words of a text. Here they
are opaque: two of them merge only when they are the same.
-/

namespace SearchQuery

/-- How the words of a text are combined. -/
inductive WordOperator
  | and
  | or
  deriving DecidableEq

namespace WordOperator

/-- The operator where none is given. -/
def standard : WordOperator := .or

/-- The name of an operator in documents. -/
def name : WordOperator → String
  | .and => "and"
  | .or => "or"

/-- The operator with a name. -/
def ofName? (name : String) : Option WordOperator :=
  if name = "and" then some .and else if name = "or" then some .or else none

end WordOperator

/-- A field holds words of a text. -/
structure FullText extends Scope where
  query : String
  analyzer : Option String
  operator : Option WordOperator
  fuzziness : Option Fuzziness
  maxExpansions : Option Nat

/-- A field holds the words of a phrase in order. The last word may be the
beginning of a word. -/
structure Phrase extends Scope where
  openEnded : Bool
  phrase : String
  analyzer : Option String
  slop : Option Nat
  maxExpansions : Option Nat

/-- A query in the language of the search engine. -/
structure QueryText where
  query : String
  defaultField : Option String
  boost : Binary64

namespace FullText

/-- Full text without options. -/
def ofText (scope : Scope) (query : String) : FullText :=
  { toScope := scope, query := query, analyzer := none, operator := none,
    fuzziness := none, maxExpansions := none }

/-- Sameness of all parts. -/
def same (a b : FullText) : Bool :=
  a.toScope.same b.toScope && a.query == b.query && a.analyzer == b.analyzer &&
    a.operator == b.operator && a.fuzziness == b.fuzziness &&
    a.maxExpansions == b.maxExpansions

end FullText

namespace Phrase

/-- The name of the kind of a phrase. -/
def kind (phrase : Phrase) : String :=
  if phrase.openEnded then "match_phrase_prefix" else "match_phrase"

/-- The words of the phrase. -/
def words (phrase : Phrase) : List String := Text.words phrase.phrase

/-- Sameness of all parts. -/
def same (a b : Phrase) : Bool :=
  a.toScope.same b.toScope && a.openEnded == b.openEnded &&
    a.phrase == b.phrase &&
    a.analyzer == b.analyzer && a.slop == b.slop &&
      a.maxExpansions == b.maxExpansions

end Phrase

namespace QueryText

/-- Sameness of all parts. -/
def same (a b : QueryText) : Bool :=
  a.query == b.query && a.defaultField == b.defaultField &&
    a.boost.equals b.boost

end QueryText
end SearchQuery
