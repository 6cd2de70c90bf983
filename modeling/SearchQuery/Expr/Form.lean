import SearchQuery.Expr.Basic
import SearchQuery.Json.Form
import SearchQuery.Leaf.FuzzinessForm

/-!
# The form of an expression

Every option of a condition is written, with `null` for one that is not given.
On reading, all but the field and the comparison may be left out.
-/

namespace SearchQuery

namespace Json

/-- A number, or `null` for none. -/
def ofNumber? : Option Binary64 → Json
  | some value => .ofBinary64 value
  | none => .null

end Json

namespace Comparison

/-- The form of a comparison. -/
def toForm : Comparison → Json
  | .between left right =>
      .obj [("between",
        .obj [("left_inclusive", .bool left),
          ("right_inclusive", .bool right)])]
  | comparison => .str ((words.lookup comparison).getD "")

/-- The names of the two inclusions. -/
def inclusionNames : List String := ["left_inclusive", "right_inclusive"]

/-- Read the form of a comparison. -/
def ofForm? : Json → Option Comparison
  | .obj [("between", content)] => do
      guard (content.isCaseRecord inclusionNames)
      let left ← (← content.field? inclusionNames "left_inclusive").flag?
      let right ← (← content.field? inclusionNames "right_inclusive").flag?
      return .between left right
  | form => do
      let name ← form.caseName?
      let (comparison, _) ← words.find? (·.2 == name)
      return comparison

end Comparison

namespace Modifiers

/-- The names of the options, in the order of their form. -/
def fieldNames : List String :=
  ["boost", "analyzer", "slop", "rewrite", "max_expansions", "fuzziness",
    "prefix_length"]

/-- The form of options. -/
def toForm (modifiers : Modifiers) : Json :=
  .obj [("boost", .ofNumber? modifiers.boost),
    ("analyzer", .ofText? modifiers.analyzer), ("slop", .ofNat? modifiers.slop),
    ("rewrite", .ofText? modifiers.rewrite),
    ("max_expansions", .ofNat? modifiers.maxExpansions),
    ("fuzziness", (modifiers.fuzziness.map Fuzziness.toForm).getD .null),
    ("prefix_length", .ofNat? modifiers.prefixLength)]

/-- Read the form of options. -/
def ofForm? (form : Json) : Option Modifiers := do
  guard (form.isRecord fieldNames)
  let option {α : Type} (name : String) (read : Json → Option α) :
      Option (Option α) :=
    Json.withDefault Option.none (Json.optional? read)
      (form.field? fieldNames name)
  return {
    boost := ← option "boost" Json.number?
    analyzer := ← option "analyzer" Json.text?
    slop := ← option "slop" (Json.natural? (Nat.pow 2 32))
    rewrite := ← option "rewrite" Json.text?
    maxExpansions := ← option "max_expansions" (Json.natural? (Nat.pow 2 64))
    fuzziness := ← option "fuzziness" Fuzziness.ofForm?
    prefixLength := ← option "prefix_length" (Json.natural? (Nat.pow 2 64)) }

end Modifiers

namespace Condition

/-- The names of the parts of a condition. -/
def fieldNames : List String := ["field", "comparison", "values", "modifiers"]

/-- The form of a condition. -/
def toForm (condition : Condition) : Json :=
  .obj [("field", .str condition.field),
    ("comparison", condition.comparison.toForm),
    ("values", .arr (condition.values.map .str)),
    ("modifiers", condition.modifiers.toForm)]

/-- Read the form of a condition. -/
def ofForm? (form : Json) : Option Condition := do
  guard (form.isRecord fieldNames)
  let field ← (← form.field? fieldNames "field").text?
  let comparison ← Comparison.ofForm? (← form.field? fieldNames "comparison")
  let values ← Json.withDefault [] Json.texts? (form.field? fieldNames "values")
  let modifiers ←
    Json.withDefault Modifiers.none Modifiers.ofForm?
      (form.field? fieldNames "modifiers")
  return ⟨field, comparison, values, modifiers⟩

end Condition

namespace Expr

mutual

/-- The form of an expression. -/
def toForm : Expr → Json
  | .condition content => .obj [("condition", content.toForm)]
  | .all parts => .obj [("and", .arr (partForms parts))]
  | .any parts => .obj [("or", .arr (partForms parts))]
  | .not part => .obj [("not", toForm part)]

/-- The forms of expressions, one by one. -/
def partForms : List Expr → List Json
  | [] => []
  | part :: rest => toForm part :: partForms rest

end

mutual

/-- Read the form of an expression. -/
def ofForm? : Json → Option Expr
  | .obj [(key, content)] =>
      if key = "condition" then (Condition.ofForm? content).map .condition
      else if key = "and" then (parts? content).map .all
      else if key = "or" then (parts? content).map .any
      else if key = "not" then (ofForm? content).map .not
      else none
  | _ => none

/-- Read a list of expressions. -/
def parts? : Json → Option (List Expr)
  | .arr forms => ofForms? forms
  | _ => none

/-- Read the forms of expressions. -/
def ofForms? : List Json → Option (List Expr)
  | [] => some []
  | form :: rest => do
      let part ← ofForm? form
      let others ← ofForms? rest
      return part :: others

end

end Expr
end SearchQuery
