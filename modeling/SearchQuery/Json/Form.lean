import SearchQuery.Binary64.Rounding
import SearchQuery.Json.Basic

/-!
# Reading forms

The forms in which structured inputs are written in JSON. A record is an object,
in which unknown members have no meaning, or an array of its fields in order.
One of several cases is the name of the case, or an object whose one member has
this name and holds the content.
-/

namespace SearchQuery
namespace Json

/-- The content of a string. -/
def text? : Json → Option String
  | .str text => some text
  | _ => none

/-- The content of a truth value. -/
def flag? : Json → Option Bool
  | .bool value => some value
  | _ => none

/-- A natural number below a bound. A number with a point is none. -/
def natural? (bound : Nat) : Json → Option Nat
  | .int value => if 0 ≤ value ∧ value < bound then some value.toNat else none
  | _ => none

/-- A number of either kind, as the nearest binary number. -/
def number? : Json → Option Binary64
  | .int value => some (.ofInt value)
  | .float value => some value
  | _ => none

/-- The content of an integer below 256. -/
def byte? (json : Json) : Option UInt8 :=
  (json.natural? (Nat.pow 2 8)).map UInt8.ofNat

/-- A list of texts. -/
def texts? : Json → Option (List String)
  | .arr items => items.mapM text?
  | _ => none

/-- `null` for no value, or a value. -/
def optional? {α : Type} (read : Json → Option α) : Json → Option (Option α)
  | .null => some none
  | json => (read json).map some

/-- The field of a record: by name in an object, by position in an array. The
names are those of all fields in order. -/
def field? (names : List String) (name : String) : Json → Option Json
  | .obj members => members.lookup name
  | .arr items => items[names.idxOf name]?
  | _ => none

/-- The form of a record with the given fields: an object, or an array that is
not longer than the record. -/
def isRecord (names : List String) : Json → Bool
  | .obj _ => true
  | .arr items => items.length ≤ names.length
  | _ => false

/-- A field that may be left out. -/
def withDefault {α : Type} (value : α) (read : Json → Option α) :
    Option Json → Option α
  | none => some value
  | some json => read json

/-- A case without content: its name, or its name with `null`. -/
def caseName? : Json → Option String
  | .str name => some name
  | .obj [(name, .null)] => some name
  | _ => none

/-- The content of a case that is a record of its own, which as an array cannot
be empty. -/
def isCaseRecord (names : List String) : Json → Bool
  | .arr [] => false
  | json => json.isRecord names

end Json
end SearchQuery
