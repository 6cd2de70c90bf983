import SearchQuery.Binary64.Basic
import SearchQuery.Leaf.Fuzziness

/-!
# Expressions

What is to be compiled: Boolean expressions over conditions, whose values are
still text.
-/

namespace SearchQuery

/-- What a condition asks of a field. -/
inductive Comparison
  | equal
  | gt
  | gte
  | lt
  | lte
  | between (leftInclusive rightInclusive : Bool)
  | phrase
  | phrasePrefix
  | stem
  | glob
  | regexp
  | near
  | present
  | ids
  | queryText
  | everything
  deriving DecidableEq

/-- Options of a condition. -/
structure Modifiers where
  boost : Option Binary64
  analyzer : Option String
  slop : Option Nat
  rewrite : Option String
  maxExpansions : Option Nat
  fuzziness : Option Fuzziness
  prefixLength : Option Nat
  deriving DecidableEq

/-- A condition as it is asked for. -/
structure Condition where
  field : String
  comparison : Comparison
  values : List String
  modifiers : Modifiers
  deriving DecidableEq

/-- A Boolean expression over conditions. -/
inductive Expr
  | condition (content : Condition)
  | all (parts : List Expr)
  | any (parts : List Expr)
  | not (part : Expr)

namespace Comparison

/-- The comparisons that are named by a word. -/
def words : List (Comparison × String) :=
  [(.equal, "eq"), (.gt, "gt"), (.gte, "gte"), (.lt, "lt"), (.lte, "lte"),
    (.phrase, "phrase"), (.phrasePrefix, "phrase_prefix"), (.stem, "prefix"),
    (.glob, "wildcard"), (.regexp, "regexp"), (.near, "fuzzy"),
    (.present, "exists"), (.ids, "ids"), (.queryText, "query_string"),
    (.everything, "match_all")]

/-- The name of a comparison in messages. -/
def label : Comparison → String
  | .equal => "Eq"
  | .gt => "Gt"
  | .gte => "Gte"
  | .lt => "Lt"
  | .lte => "Lte"
  | .between left right =>
      let flag (value : Bool) := if value then "true" else "false"
      "Between \x7b left_inclusive: " ++ flag left ++ ", right_inclusive: " ++
        flag right
        ++ " \x7d"
  | .phrase => "Phrase"
  | .phrasePrefix => "PhrasePrefix"
  | .stem => "Prefix"
  | .glob => "Wildcard"
  | .regexp => "Regexp"
  | .near => "Fuzzy"
  | .present => "Exists"
  | .ids => "Ids"
  | .queryText => "QueryString"
  | .everything => "MatchAll"

end Comparison

namespace Modifiers

/-- No options. -/
def none : Modifiers := ⟨.none, .none, .none, .none, .none, .none, .none⟩

end Modifiers

namespace Condition

/-- The condition that a field equals one value. -/
def equalTo (field value : String) : Condition :=
  ⟨field, .equal, [value], .none⟩

/-- The condition with other options. -/
def withModifiers (condition : Condition) (modifiers : Modifiers) : Condition :=
  { condition with modifiers := modifiers }

/-- The condition with a weight. -/
def withBoost (condition : Condition) (boost : Binary64) : Condition :=
  { condition with
    modifiers := { condition.modifiers with boost := some boost } }

end Condition
end SearchQuery
