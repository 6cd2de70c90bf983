import SearchQuery.Error
import SearchQuery.Value.Reader

/-!
# Schemas

A schema declares the fields of an index as a tree, in which a path with dots
leads to a nested field. It says what type a condition on a field works with and
reads values for it.
-/

namespace SearchQuery

/-- How fields that are not declared are taken. -/
inductive DynamicMode
  | keyword
  | strict
  deriving DecidableEq

/-- The declaration of a field, with the fields nested in it. -/
structure FieldSpec where
  type : FieldType
  array : Bool
  properties : Option (List (String × FieldSpec))

/-- The declared fields of an index. -/
structure Schema where
  properties : List (String × FieldSpec)
  dynamic : DynamicMode

namespace DynamicMode

/-- The name of a mode in declarations. -/
def name : DynamicMode → String
  | .keyword => "true"
  | .strict => "strict"

/-- The mode with a name. -/
def ofName? (name : String) : Option DynamicMode :=
  if name = "true" then some .keyword
  else if name = "strict" then some .strict
  else none

end DynamicMode

namespace FieldSpec

/-- The type of the field as conditions see it. -/
def valueType (spec : FieldSpec) : ValueType := ⟨spec.type, spec.array⟩

/-- The field that a path of names leads to. -/
def find? (fields : List (String × FieldSpec)) : List String → Option FieldSpec
  | [] => none
  | [name] => fields.lookup name
  | name :: rest => do
      let spec ← fields.lookup name
      find? (← spec.properties) rest

/-- The path of a field nested under `parent`. -/
def pathUnder (parent name : String) : String :=
  if parent.isEmpty then name else parent ++ "." ++ name

mutual

/-- The paths of a field and of the fields nested in it. -/
def paths (path : String) : FieldSpec → List String
  | ⟨_, _, properties⟩ => path :: optionPaths path properties

/-- The paths of nested fields, if there are any. -/
def optionPaths (parent : String) :
    Option (List (String × FieldSpec)) → List String
  | none => []
  | some fields => fieldPaths parent fields

/-- The paths of named fields. -/
def fieldPaths (parent : String) : List (String × FieldSpec) → List String
  | [] => []
  | (name, spec) :: rest =>
      paths (pathUnder parent name) spec ++ fieldPaths parent rest

end

end FieldSpec

namespace Schema

/-- No declared fields; other fields are keywords. -/
def empty : Schema := ⟨[], .keyword⟩

/-- No declared fields, and no other fields either. -/
def strict : Schema := ⟨[], .strict⟩

/-- Put a declaration in place of one with the same name, or at the end. -/
def setField (name : String) (spec : FieldSpec) :
    List (String × FieldSpec) → List (String × FieldSpec)
  | [] => [(name, spec)]
  | (other, otherSpec) :: rest =>
      if other = name then (name, spec) :: rest
      else (other, otherSpec) :: setField name spec rest

/-- Declare a field. -/
def declare (schema : Schema) (name : String) (spec : FieldSpec) : Schema :=
  { schema with properties := setField name spec schema.properties }

/-- The declaration at a path. -/
def find? (schema : Schema) (path : String) : Option FieldSpec :=
  FieldSpec.find? schema.properties
    ((Text.split '.' path.toList).map String.ofList)

/-- The path is declared. -/
def has (schema : Schema) (path : String) : Bool := (schema.find? path).isSome

/-- The paths of all declared fields, in the order of their code points. -/
def paths (schema : Schema) : List String :=
  (FieldSpec.fieldPaths "" schema.properties).mergeSort fun a b =>
    compare a b != .gt

/-- The type of a declared field. -/
def fieldType? (schema : Schema) (path : String) : Option FieldType :=
  (schema.find? path).map (·.type)

/-- A document can hold several values of the field. -/
def isArray (schema : Schema) (path : String) : Bool :=
  ((schema.find? path).map (·.array)).getD false

/-- The type that a condition on a field works with. A field that is not
declared is a keyword, or unknown. -/
def resolve (schema : Schema) (path : String) (dynamic : DynamicMode) :
    Except Error ValueType :=
  match schema.find? path, dynamic with
  | some spec, _ => .ok spec.valueType
  | none, .keyword => .ok ⟨.keyword, false⟩
  | none, .strict => .error (.unknownField path)

/-- Read a value for a field. -/
def coerce (schema : Schema) (path text : String) : Except Error Value :=
  match Value.read ((schema.fieldType? path).getD .keyword) text with
  | .ok value => .ok value
  | .error cause => .error (.invalidValue path text (.unreadable cause))

end Schema
end SearchQuery
