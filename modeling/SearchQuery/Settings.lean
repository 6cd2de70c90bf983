import SearchQuery.Expr.Form
import SearchQuery.Schema.Form

/-!
# Settings

The options of a compilation that do not belong to one condition, and their
form.
-/

namespace SearchQuery

/-- How conditions are compiled where they leave it open. -/
structure Settings where
  defaultField : String
  filterContext : Bool
  defaultFuzziness : Fuzziness
  defaultMaxExpansions : Nat
  defaultRewrite : Option String
  dateTimeZone : Option String
  dynamic : Option DynamicMode
  deriving DecidableEq

namespace Settings

/-- The settings where none are given. -/
def standard : Settings :=
  { defaultField := "content"
    filterContext := false
    defaultFuzziness := .standard
    defaultMaxExpansions := 50
    defaultRewrite := none
    dateTimeZone := none
    dynamic := none }

/-- The names of the settings, in the order of their form. -/
def fieldNames : List String :=
  ["default_field", "filter_context", "default_fuzziness",
    "default_max_expansions", "default_rewrite", "date_time_zone", "dynamic"]

/-- The form of settings. -/
def toForm (settings : Settings) : Json :=
  .obj [("default_field", .str settings.defaultField),
    ("filter_context", .bool settings.filterContext),
    ("default_fuzziness", settings.defaultFuzziness.toForm),
    ("default_max_expansions", .int settings.defaultMaxExpansions),
    ("default_rewrite", .ofText? settings.defaultRewrite),
    ("date_time_zone", .ofText? settings.dateTimeZone),
    ("dynamic", (settings.dynamic.map DynamicMode.toForm).getD .null)]

/-- Read the form of settings; a setting that is left out is the standard
one. -/
def ofForm? (form : Json) : Option Settings := do
  guard (form.isRecord fieldNames)
  let setting {α : Type} (name : String) (value : α) (read : Json → Option α) :
      Option α :=
    Json.withDefault value read (form.field? fieldNames name)
  return {
    defaultField := ← setting "default_field" standard.defaultField Json.text?
    filterContext :=
      ← setting "filter_context" standard.filterContext Json.flag?
    defaultFuzziness :=
      ← setting "default_fuzziness" standard.defaultFuzziness Fuzziness.ofForm?
    defaultMaxExpansions :=
      ← setting "default_max_expansions" standard.defaultMaxExpansions
        (Json.natural? (Nat.pow 2 64))
    defaultRewrite :=
      ← setting "default_rewrite" standard.defaultRewrite
        (Json.optional? Json.text?)
    dateTimeZone :=
      ← setting "date_time_zone" standard.dateTimeZone
        (Json.optional? Json.text?)
    dynamic :=
      ← setting "dynamic" standard.dynamic
        (Json.optional? DynamicMode.ofForm?) }

end Settings
end SearchQuery
