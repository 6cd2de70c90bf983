import SearchQuery.Leaf.Basic

/-!
# Documents of leaves

The form of a leaf in the search language: an object with the name of its kind,
and in it mostly one with the name of its field.
-/

namespace SearchQuery

/-- The member of an option that is given. -/
def optionalMember (key : String) (value : Option Json) :
    List (String × Json) :=
  value.toList.map fun value => (key, value)

/-- An object with one member, which is itself an object with one member. -/
def fieldDocument (kind field : String) (members : List (String × Json)) :
    Json :=
  .obj [(kind, .obj [(field, .obj members)])]

namespace Scope

/-- The member with the weight of a condition. -/
def boostMember (boost : Binary64) : String × Json :=
  ("boost", .ofBinary64 boost)

end Scope

namespace Leaf

/-- The options of a matcher of near words. -/
def nearMembers (near : NearWord) : List (String × Json) :=
  [("fuzziness", near.fuzziness.toJson),
    ("prefix_length", .int near.prefixLength),
    ("max_expansions", .int near.maxExpansions),
    ("transpositions", .bool near.transpositions)]

/-- The members of a pattern besides those that all patterns have. -/
def matcherMembers : Matcher → List (String × Json)
  | .near near => nearMembers near
  | _ => []

/-- The document of a leaf. The values of a set and the boost stand in one
object, where the boost is set last. Instants are counts of milliseconds, and a
range of them says so. -/
def document : Leaf → Json
  | .term content =>
      fieldDocument "term" content.field
        [("value", content.value.toJson), Scope.boostMember content.boost]
  | .valueSet content =>
      .obj [("terms", .ofMembers
        [(content.field, .arr (content.values.map Value.toJson)),
          Scope.boostMember content.boost])]
  | .range content =>
      fieldDocument "range" content.field <|
        content.lower.toList.map
          (fun bound => (bound.comparison.name, bound.value.toJson)) ++
          content.upper.toList.map
            (fun bound => (bound.comparison.name, bound.value.toJson)) ++
          [Scope.boostMember content.boost] ++
          optionalMember "relation" (content.relation.map .str) ++
          (if content.fieldType.family = .date then
            [("format", .str "epoch_millis")]
          else []) ++
          optionalMember "time_zone" (content.timeZone.map .str)
  | .fullText content =>
      fieldDocument "match" content.field <|
        [("query", .str content.query), Scope.boostMember content.boost] ++
          optionalMember "analyzer" (content.analyzer.map .str) ++
          optionalMember "operator"
            (content.operator.map fun operator => .str operator.name) ++
          optionalMember "fuzziness" (content.fuzziness.map Fuzziness.toJson) ++
          optionalMember "max_expansions"
            (content.maxExpansions.map fun n => .int n)
  | .phrase content =>
      fieldDocument content.kind content.field <|
        [("query", .str content.phrase), Scope.boostMember content.boost] ++
          optionalMember "analyzer" (content.analyzer.map .str) ++
          optionalMember "slop" (content.slop.map fun n => .int n) ++
          optionalMember "max_expansions"
            (content.maxExpansions.map fun n => .int n)
  | .pattern content =>
      fieldDocument content.matcher.kind content.field <|
        [("value", .str content.matcher.text),
          Scope.boostMember content.boost] ++
          matcherMembers content.matcher ++
          optionalMember "rewrite" (content.rewrite.map .str)
  | .presence content => .obj [("exists", .obj [("field", .str content.field)])]
  | .ids content =>
      .obj [("ids", .obj [("values", .arr (content.values.map .str))])]
  | .queryText content =>
      .obj [("query_string", .obj <|
        [("query", .str content.query)] ++
          optionalMember "default_field" (content.defaultField.map .str) ++
          [Scope.boostMember content.boost])]
  | .everything boost =>
      .obj [("match_all",
        .obj (if boost.equals .one then [] else [Scope.boostMember boost]))]
  | .nothing => .obj []

end Leaf
end SearchQuery
