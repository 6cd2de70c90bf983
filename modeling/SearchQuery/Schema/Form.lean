import SearchQuery.Json.Form
import SearchQuery.Schema.Basic

/-!
# The form of a schema

Declarations without nested fields are written without a member for them.
-/

namespace SearchQuery

namespace FieldType

/-- The form of a type is its name. -/
def toForm (type : FieldType) : Json := .str type.name

/-- Read the form of a type. -/
def ofForm? (form : Json) : Option FieldType := form.caseName?.bind ofName?

end FieldType

namespace ValueType

/-- The form of the type of values. -/
def toForm (type : ValueType) : Json :=
  .obj [("field_type", type.fieldType.toForm), ("is_array", .bool type.isArray)]

end ValueType

namespace DynamicMode

/-- The form of a mode is its name. -/
def toForm (dynamic : DynamicMode) : Json := .str dynamic.name

/-- Read the form of a mode. -/
def ofForm? (form : Json) : Option DynamicMode := form.caseName?.bind ofName?

end DynamicMode

namespace FieldSpec

mutual

/-- The form of a declaration. -/
def toForm : FieldSpec → Json
  | ⟨type, array, properties⟩ =>
      .obj (("type", type.toForm) :: ("array", .bool array) ::
        propertiesMember properties)

/-- The member with the nested declarations, if there are any. -/
def propertiesMember : Option (List (String × FieldSpec)) → List (String × Json)
  | none => []
  | some fields => [("properties", .obj (fieldForms fields))]

/-- The forms of named declarations. -/
def fieldForms : List (String × FieldSpec) → List (String × Json)
  | [] => []
  | (name, spec) :: rest => (name, toForm spec) :: fieldForms rest

end

/-- A declaration from the forms of its parts, of which only the type must be
given. -/
def ofParts? (type array : Option Json)
    (properties : Option (List (String × FieldSpec))) :
    Option FieldSpec := do
  let type ← FieldType.ofForm? (← type)
  let array ← Json.withDefault false Json.flag? array
  return ⟨type, array, properties⟩

mutual

/-- Read the form of a declaration. -/
def ofForm? : Json → Option FieldSpec
  | .obj members => do
      ofParts? (members.lookup "type") (members.lookup "array")
        (← nestedMember? members)
  | .arr [type] => ofParts? (some type) none none
  | .arr [type, array] => ofParts? (some type) (some array) none
  | .arr [type, array, properties] => do
      ofParts? (some type) (some array) (← nested? properties)
  | _ => none

/-- The nested declarations among the members of a declaration. -/
def nestedMember? :
    List (String × Json) → Option (Option (List (String × FieldSpec)))
  | [] => some none
  | (key, value) :: rest =>
      if key = "properties" then nested? value else nestedMember? rest

/-- Nested declarations, or `null` for none. -/
def nested? : Json → Option (Option (List (String × FieldSpec)))
  | .null => some none
  | .obj members => (ofMembers? members).map some
  | _ => none

/-- Named declarations. -/
def ofMembers? : List (String × Json) → Option (List (String × FieldSpec))
  | [] => some []
  | (name, form) :: rest => do
      let spec ← ofForm? form
      let others ← ofMembers? rest
      return (name, spec) :: others

end

/-- Read named declarations. -/
def tableOfForm? : Json → Option (List (String × FieldSpec))
  | .obj members => ofMembers? members
  | _ => none

end FieldSpec

namespace Schema

/-- The names of the parts of a schema. -/
def fieldNames : List String := ["properties", "dynamic"]

/-- The form of a schema. -/
def toForm (schema : Schema) : Json :=
  .obj [("properties", .obj (FieldSpec.fieldForms schema.properties)),
    ("dynamic", schema.dynamic.toForm)]

/-- Read the form of a schema. -/
def ofForm? (form : Json) : Option Schema := do
  guard (form.isRecord fieldNames)
  let properties ←
    Json.withDefault [] FieldSpec.tableOfForm?
      (form.field? fieldNames "properties")
  let dynamic ← Json.withDefault .keyword DynamicMode.ofForm?
      (form.field? fieldNames "dynamic")
  return ⟨properties, dynamic⟩

end Schema
end SearchQuery
