import SearchQuery.Schema.FieldType
import SearchQuery.Value.Basic
import SearchQuery.Version

/-!
# The order of values

Values are ordered under a field type, by the rule of its family. Values that
the family does not know are ordered by kind alone.
-/

namespace SearchQuery
namespace Value

/-- The place of a kind among the kinds, for values outside the family. -/
def kindRank : Value → Nat
  | .int _ | .uint _ | .float _ => 0
  | .bool _ => 1
  | .date _ => 2
  | .ip _ => 3
  | .version _ => 4
  | .str _ => 5

/-- The integer that a value of an integral kind is. -/
def integer? : Value → Option Int
  | .int value => some value.toInt
  | .uint value => some value.toNat
  | _ => none

/-- The binary number nearest to a numeric value. -/
def binary64? : Value → Option Binary64
  | .float value => some value
  | value => value.integer?.map Binary64.ofInt

/-- The order of numbers: integers are compared exactly, and as binary numbers
where one side is one. -/
def numericOrder? (a b : Value) : Option Ordering :=
  match a.integer?, b.integer? with
  | some n, some m => some (compare n m)
  | _, _ =>
      match a.binary64?, b.binary64? with
      | some x, some y => some (x.order y)
      | _, _ => none

/-- The order of instants, where an integer is a count of milliseconds. -/
def dateOrder? : Value → Value → Option Ordering
  | .date a, .date b => some (a.order b)
  | .date a, .int b => some (compare a.milliseconds b.toInt)
  | .int a, .date b => some (compare a.toInt b.milliseconds)
  | _, _ => none

/-- The order inside a family, for two values that it knows. -/
def familyOrder? : Family → Value → Value → Option Ordering
  | .numeric, a, b => numericOrder? a b
  | .string, a, b =>
      match a.text?, b.text? with
      | some a, some b => some (Version.textOrder a b)
      | _, _ => none
  | .date, a, b => dateOrder? a b
  | .ip, .ip a, .ip b => some (a.order b)
  | .ip, _, _ => none
  | .version, a, b =>
      match a.text?, b.text? with
      | some a, some b => some (Version.order a b)
      | _, _ => none
  | .boolean, .bool a, .bool b => some (compare a.toNat b.toNat)
  | .boolean, _, _ => none

/-- The order of two values under a field type. -/
def order (type : FieldType) (a b : Value) : Ordering :=
  (familyOrder? type.family a b).getD (compare a.kindRank b.kindRank)

/-- Equality under a field type. -/
def equal (type : FieldType) (a b : Value) : Bool := order type a b == .eq

end Value
end SearchQuery
