/-!
# Field types

The type of a field fixes how its values are read, ordered and written. Types of
one family can be compared with each other.
-/

namespace SearchQuery

/-- The types that a field can be declared with. -/
inductive FieldType
  | integer
  | long
  | unsignedLong
  | float
  | double
  | keyword
  | text
  | date
  | ip
  | version
  | boolean
  deriving DecidableEq, Inhabited

/-- The kinds of order among values. -/
inductive Family
  | numeric
  | string
  | date
  | ip
  | version
  | boolean
  deriving DecidableEq

namespace FieldType

/-- All types. -/
def all : List FieldType :=
  [.integer, .long, .unsignedLong, .float, .double, .keyword, .text, .date,
    .ip, .version, .boolean]

/-- The family whose order the values of a type have. -/
def family : FieldType → Family
  | .integer | .long | .unsignedLong | .float | .double => .numeric
  | .keyword | .text => .string
  | .date => .date
  | .ip => .ip
  | .version => .version
  | .boolean => .boolean

/-- The values of both types can be compared with each other. -/
def isCompatible (a b : FieldType) : Bool := a.family == b.family

/-- Text that the search engine cuts into words before it is indexed. -/
def isAnalyzed (type : FieldType) : Bool := type == .text

/-- The type admits conditions with bounds. -/
def supportsRange (type : FieldType) : Bool := type != .text && type != .boolean

/-- Values of the type are binary numbers. -/
def isFloating (type : FieldType) : Bool := type == .float || type == .double

/-- The name of a type in declarations. -/
def name : FieldType → String
  | .integer => "integer"
  | .long => "long"
  | .unsignedLong => "unsigned_long"
  | .float => "float"
  | .double => "double"
  | .keyword => "keyword"
  | .text => "text"
  | .date => "date"
  | .ip => "ip"
  | .version => "version"
  | .boolean => "boolean"

/-- The type with a name. -/
def ofName? (name : String) : Option FieldType := all.find? (·.name == name)

theorem ofName?_name (type : FieldType) : ofName? type.name = some type := by
  cases type <;> decide

end FieldType

namespace Family

/-- The name of a family. -/
def name : Family → String
  | .numeric => "numeric"
  | .string => "string"
  | .date => "date"
  | .ip => "ip"
  | .version => "version"
  | .boolean => "boolean"

end Family

/-- The type of a field, and whether a document may hold several of its
values. -/
structure ValueType where
  fieldType : FieldType
  isArray : Bool
  deriving DecidableEq

end SearchQuery
