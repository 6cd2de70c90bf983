import SearchQuery.Algebra.Nodes
import SearchQuery.Node.Document
import SearchQuery.Settings

/-!
# Compilation

An expression is compiled from its conditions upwards: each condition becomes a
leaf under the type of its field, and the connectives are the operations of the
algebra. The first failure ends the compilation.
-/

namespace SearchQuery

/-- What a compilation works with. -/
structure Compiler where
  schema : Schema
  settings : Settings

namespace Compiler

/-- The text that stands for no bound, or for any value. -/
def anyValue : String := "*"

/-- The fault of a condition with a wrong number of values. -/
def demand (condition : Condition) (demand : Demand) : Error :=
  .invalidRequest (.values condition.comparison.label condition.field demand)

/-- The one value of a condition. -/
def singleValue (condition : Condition) : Except Error String :=
  match condition.values with
  | [value] => .ok value
  | _ => .error (demand condition .oneValue)

/-- The weight of a condition, a finite number that is not below zero. -/
def boost (condition : Condition) : Except Error Binary64 :=
  let boost := condition.modifiers.boost.getD .one
  if !boost.isFinite || boost.isBelowZero then
    .error (.invalidValue condition.field boost.plain .boost)
  else .ok boost

/-- How terms are collected for a pattern. -/
def rewrite (compiler : Compiler) (modifiers : Modifiers) : Option String :=
  modifiers.rewrite.or compiler.settings.defaultRewrite

/-- A range without bounds, on a field whose type has ranges. -/
def openRange (compiler : Compiler) (scope : Scope) : Except Error Range :=
  if !scope.type.fieldType.supportsRange then
    .error (.invalidRequest (.range scope.type.fieldType scope.field))
  else
    .ok { Range.unbounded scope with
      timeZone :=
        if scope.type.fieldType = .date then compiler.settings.dateTimeZone
        else none }

/-- Bound a range from below, unless the text stands for no bound. -/
def lowerBound (compiler : Compiler) (range : Range)
    (comparison : LowerComparison)
    (text : String) : Except Error Range := do
  if text = anyValue then return range
  return range.withLower comparison (← compiler.schema.coerce range.field text)

/-- Bound a range from above, unless the text stands for no bound. -/
def upperBound (compiler : Compiler) (range : Range)
    (comparison : UpperComparison)
    (text : String) : Except Error Range := do
  if text = anyValue then return range
  return range.withUpper comparison (← compiler.schema.coerce range.field text)

/-- A range with one bound. -/
def halfRange (compiler : Compiler) (condition : Condition) (scope : Scope)
    (bound : Range → String → Except Error Range) : Except Error Node := do
  let text ← singleValue condition
  return .leaf (.range (← bound (← compiler.openRange scope) text))

/-- A range with two bounds, which must leave a place for a value. -/
def betweenRange (compiler : Compiler) (condition : Condition) (scope : Scope)
    (leftInclusive rightInclusive : Bool) : Except Error Node := do
  match condition.values with
  | [low, high] =>
      let range ← compiler.openRange scope
      let range ←
        compiler.lowerBound range (if leftInclusive then .gte else .gt) low
      let range ←
        compiler.upperBound range (if rightInclusive then .lte else .lt) high
      range.validate
      return .leaf (.range range)
  | _ => throw (demand condition .twoValues)

/-- Full text for the value of a condition on an analyzed field. -/
def fullText (condition : Condition) (scope : Scope) (text : String) :
    FullText :=
  { FullText.ofText scope text with
    analyzer := condition.modifiers.analyzer
    fuzziness := condition.modifiers.fuzziness
    maxExpansions := condition.modifiers.maxExpansions }

/-- Equality: presence for the text of any value, full text on an analyzed
field, and exact values elsewhere. -/
def equality (compiler : Compiler) (condition : Condition) (scope : Scope) :
    Except Error Node := do
  if condition.values.isEmpty then throw (demand condition .someValue)
  if condition.values.contains anyValue then
    return .leaf (.presence ⟨scope.field, scope.filter⟩)
  if scope.type.fieldType.isAnalyzed then
    Node.mergeAll .union
      (condition.values.map fun text =>
        .leaf (.fullText (fullText condition scope text)))
  else
    let values ← condition.values.mapM (compiler.schema.coerce scope.field)
    return .leaf (ValueSet.ofValues scope values).leaf

/-- A phrase, whose last word may be open. -/
def phrase (condition : Condition) (scope : Scope) (openEnded : Bool) :
    Except Error Node := do
  let text ← singleValue condition
  return .leaf (.phrase
    { toScope := scope
      openEnded := openEnded
      phrase := text
      analyzer := condition.modifiers.analyzer
      slop := condition.modifiers.slop
      maxExpansions :=
        if openEnded then condition.modifiers.maxExpansions else none })

/-- A pattern, which must have a meaning. -/
def pattern (compiler : Compiler) (condition : Condition) (scope : Scope)
    (matcher : String → Matcher) : Except Error Node := do
  let text ← singleValue condition
  (matcher text).validate
  return .leaf (.pattern
    { toScope := scope
      matcher := matcher text
      rewrite := compiler.rewrite condition.modifiers })

/-- The matcher of terms near a word, with the settings for what is not
given. -/
def nearMatcher (compiler : Compiler) (modifiers : Modifiers) (word : String) :
    Matcher :=
  .near
    { NearWord.ofWord word with
      fuzziness := modifiers.fuzziness.getD compiler.settings.defaultFuzziness
      maxExpansions :=
        modifiers.maxExpansions.getD compiler.settings.defaultMaxExpansions
      prefixLength := modifiers.prefixLength.getD 0 }

/-- The scope of a condition on a field. -/
def scope (compiler : Compiler) (condition : Condition) (boost : Binary64) :
    Except Error Scope := do
  let dynamic := compiler.settings.dynamic.getD compiler.schema.dynamic
  let type ← compiler.schema.resolve condition.field dynamic
  return ⟨condition.field, type, boost, compiler.settings.filterContext⟩

/-- The leaf of a condition on the identifiers of documents. -/
def ids (condition : Condition) (boost : Binary64) : Except Error Node :=
  if condition.values.isEmpty then .error (demand condition .someId)
  else .ok (.leaf (.ids (.ofValues boost condition.values)))

/-- The leaf of a query in the language of the search engine. -/
def queryText (compiler : Compiler) (condition : Condition) (boost : Binary64) :
    Except Error Node := do
  let text ← singleValue condition
  let field :=
    if condition.field.isEmpty then compiler.settings.defaultField
    else condition.field
  return .leaf (.queryText ⟨text, some field, boost⟩)

/-- Compile a condition. -/
def compileCondition (compiler : Compiler) (condition : Condition) :
    Except Error Node := do
  let boost ← boost condition
  match condition.comparison with
  | .everything => return .leaf (.everything boost)
  | .ids => ids condition boost
  | .queryText => compiler.queryText condition boost
  | .present =>
      let scope ← compiler.scope condition boost
      return .leaf (.presence ⟨scope.field, scope.filter⟩)
  | .equal => compiler.equality condition (← compiler.scope condition boost)
  | .gt =>
      let scope ← compiler.scope condition boost
      compiler.halfRange condition scope fun range =>
        compiler.lowerBound range .gt
  | .gte =>
      let scope ← compiler.scope condition boost
      compiler.halfRange condition scope fun range =>
        compiler.lowerBound range .gte
  | .lt =>
      let scope ← compiler.scope condition boost
      compiler.halfRange condition scope fun range =>
        compiler.upperBound range .lt
  | .lte =>
      let scope ← compiler.scope condition boost
      compiler.halfRange condition scope fun range =>
        compiler.upperBound range .lte
  | .between leftInclusive rightInclusive =>
      let scope ← compiler.scope condition boost
      compiler.betweenRange condition scope leftInclusive rightInclusive
  | .phrase => phrase condition (← compiler.scope condition boost) false
  | .phrasePrefix => phrase condition (← compiler.scope condition boost) true
  | .stem => compiler.pattern condition (← compiler.scope condition boost) .stem
  | .glob => compiler.pattern condition (← compiler.scope condition boost) .glob
  | .regexp =>
      compiler.pattern condition (← compiler.scope condition boost) .regexp
  | .near =>
      let scope ← compiler.scope condition boost
      compiler.pattern condition scope
        (compiler.nearMatcher condition.modifiers)

mutual

/-- Compile an expression. -/
def compile (compiler : Compiler) : Expr → Except Error Node
  | .condition content => compiler.compileCondition content
  | .all parts => do Node.mergeAll .inter (← compileAll compiler parts)
  | .any parts => do Node.mergeAll .union (← compileAll compiler parts)
  | .not part => do (← compile compiler part).complement

/-- Compile expressions one after the other. -/
def compileAll (compiler : Compiler) : List Expr → Except Error (List Node)
  | [] => .ok []
  | part :: rest => do
      let node ← compile compiler part
      let nodes ← compileAll compiler rest
      return node :: nodes

end

/-- Compile an expression to its document. -/
def compileToDocument (compiler : Compiler) (expression : Expr) :
    Except Error Json := do
  return (← compiler.compile expression).document

end Compiler
end SearchQuery
