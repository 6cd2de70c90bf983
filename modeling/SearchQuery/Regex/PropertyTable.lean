import SearchQuery.Regex.Property
import SearchQuery.Text.Property

/-!
# The table of properties

A name alone is that of a property, a general category or a script; general
categories and scripts can also be asked for as values.
-/

namespace SearchQuery
namespace Regex

/-- The code points that a question is for. -/
def PropertyQuery.ranges? : PropertyQuery → Option (List CodeRange)
  | having name =>
      (Text.property? name).or ((Text.category? name).or (Text.script? name))
  | withValue property value =>
      if Text.isNamed property ["General_Category", "gc"] then
        Text.category? value
      else if Text.isNamed property ["Script", "sc"] then Text.script? value
      else none

/-- The sets of the standard. -/
instance : Properties := ⟨fun query => query.ranges?.map CharSet.ofRanges⟩

end Regex
end SearchQuery
