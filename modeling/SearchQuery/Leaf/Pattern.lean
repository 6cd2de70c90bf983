import SearchQuery.EditDistance
import SearchQuery.Glob
import SearchQuery.Leaf.Fuzziness
import SearchQuery.Leaf.Scope
import SearchQuery.Regex.Match
import SearchQuery.Regex.PropertyTable

/-!
# Patterns

A pattern describes a set of terms: those that begin with a stem, those that a
wildcard pattern stands for, those that a regular expression covers, or those
within an edit distance of a word.
-/

namespace SearchQuery

/-- A word and how far a term may be from it. -/
structure NearWord where
  word : String
  fuzziness : Fuzziness
  prefixLength : Nat
  maxExpansions : Nat
  transpositions : Bool
  deriving DecidableEq

/-- A description of terms. -/
inductive Matcher
  | stem (text : String)
  | glob (pattern : String)
  | regexp (pattern : String)
  | near (word : NearWord)
  deriving DecidableEq

/-- A field holds a term that a matcher describes. -/
structure Pattern extends Scope where
  matcher : Matcher
  rewrite : Option String

namespace NearWord

/-- A word with the standard allowance. -/
def ofWord (word : String) : NearWord :=
  ⟨word, .standard, 0, 50, true⟩

/-- The first characters of the word, which a term must share. -/
def requiredStem (near : NearWord) : List Char :=
  near.word.toList.take near.prefixLength

/-- The edits allowed for the word. -/
def maxDistance (near : NearWord) : Nat :=
  near.fuzziness.editsFor near.word.toList.length

/-- The distance of a term, with swaps of neighbours where they count as one
edit. -/
def distance (near : NearWord) (term : String) : Nat :=
  if near.transpositions then EditDistance.alignment near.word term
  else EditDistance.levenshtein near.word term

/-- The term shares the required characters and is near enough. -/
def accepts (near : NearWord) (term : String) : Bool :=
  near.requiredStem.isPrefixOf term.toList &&
    near.distance term ≤ near.maxDistance

end NearWord

namespace Matcher

/-- The name of the kind of a matcher. -/
def kind : Matcher → String
  | .stem _ => "prefix"
  | .glob _ => "wildcard"
  | .regexp _ => "regexp"
  | .near _ => "fuzzy"

/-- The text that describes the terms. -/
def text : Matcher → String
  | .stem text => text
  | .glob pattern => pattern
  | .regexp pattern => pattern
  | .near word => word.word

/-- The expression whose matches cover a whole text, with the pattern spliced
in. -/
def anchored (pattern : String) : String := "^(?:" ++ pattern ++ ")$"

section Properties

variable [Regex.Properties]

/-- The expression for the terms that a matcher describes by one, where it has a
meaning as an expression. -/
def expression? : Matcher → Option Regex
  | .glob pattern => Glob.expression? pattern
  | .regexp pattern => Regex.ofText? (anchored pattern)
  | _ => none

/-- The expression of a pattern, or the refusal of the pattern. -/
def expression (matcher : Matcher) : Except Error Regex :=
  match matcher.expression? with
  | some expression => .ok expression
  | none => .error (.invalidPattern matcher.kind matcher.text)

/-- The matcher has a meaning. -/
def validate (matcher : Matcher) : Except Error Unit :=
  match matcher with
  | .glob _ | .regexp _ => matcher.expression.map fun _ => ()
  | _ => .ok ()

/-- The predicate on terms, where the matcher has a meaning. A pattern without
wildcards is compared as it is. -/
def predicate (matcher : Matcher) : Except Error (String → Bool) :=
  match matcher with
  | .stem text => .ok fun term => text.toList.isPrefixOf term.toList
  | .glob pattern =>
      if Glob.hasWildcards pattern then
        matcher.expression.map fun expression => expression.isMatch
      else .ok fun term => term == pattern
  | .regexp _ => matcher.expression.map fun expression => expression.isMatch
  | .near word => .ok word.accepts

/-- A single term is described. -/
def accepts (matcher : Matcher) (term : String) : Except Error Bool :=
  matcher.predicate.map fun holds => holds term

/-- Which of several terms are described. -/
def acceptsEach (matcher : Matcher) (terms : List String) :
    Except Error (List Bool) :=
  matcher.predicate.map fun holds => terms.map holds

end Properties

end Matcher

namespace Pattern

/-- Sameness of all parts. -/
def same (a b : Pattern) : Bool :=
  a.toScope.same b.toScope && a.matcher == b.matcher && a.rewrite == b.rewrite

end Pattern
end SearchQuery
