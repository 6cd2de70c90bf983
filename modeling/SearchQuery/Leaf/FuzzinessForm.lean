import SearchQuery.Json.Form
import SearchQuery.Leaf.Fuzziness

/-!
# The form of an allowed edit distance
-/

namespace SearchQuery
namespace Fuzziness

/-- The form of an allowance. -/
def toForm : Fuzziness → Json
  | .distance edits => .obj [("distance", .int edits.toNat)]
  | .auto low high =>
      .obj [("auto", .obj [("low", .int low.toNat), ("high", .int high.toNat)])]

/-- The names of the two limits. -/
def limitNames : List String := ["low", "high"]

/-- Read the form of an allowance. -/
def ofForm? : Json → Option Fuzziness
  | .obj [("distance", content)] => content.byte?.map .distance
  | .obj [("auto", content)] => do
      guard (content.isCaseRecord limitNames)
      let low ← (← content.field? limitNames "low").byte?
      let high ← (← content.field? limitNames "high").byte?
      return .auto low high
  | _ => none

end Fuzziness
end SearchQuery
