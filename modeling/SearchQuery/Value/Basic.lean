import SearchQuery.Json.Basic
import SearchQuery.Binary64.Text
import SearchQuery.Network.Block
import SearchQuery.Time.Instant

/-!
# Values

A value is what one field of a document can hold and what a condition asks for.
-/

namespace SearchQuery

/-- A scalar value. -/
inductive Value
  | int (value : Int64)
  | uint (value : UInt64)
  | float (value : Binary64)
  | bool (value : Bool)
  | date (value : Instant)
  | ip (value : Block)
  | version (text : String)
  | str (text : String)
  deriving DecidableEq

namespace Value

/-- The text of a textual value. -/
def text? : Value → Option String
  | .str text => some text
  | .version text => some text
  | _ => none

/-- The name of the kind of a value. -/
def kind : Value → String
  | .int _ => "int"
  | .uint _ => "uint"
  | .float _ => "float"
  | .bool _ => "bool"
  | .date _ => "date"
  | .ip _ => "ip"
  | .version _ => "version"
  | .str _ => "string"

/-- The value that stands for no lower bound. -/
def isLeast : Value → Bool
  | .int value => value == Int64.minValue
  | .float value => value.isInfinite && value.isNegative
  | .date value => value == Instant.earliest
  | _ => false

/-- The value that stands for no upper bound. -/
def isGreatest : Value → Bool
  | .int value => value == Int64.maxValue
  | .uint value => value.toNat == Nat.pow 2 64 - 1
  | .float value => value.isInfinite && !value.isNegative
  | .date value => value == Instant.latest
  | _ => false

/-- The value in a document. An instant is a count of milliseconds. -/
def toJson : Value → Json
  | .int value => .int value.toInt
  | .uint value => .int value.toNat
  | .float value => .ofBinary64 value
  | .bool value => .bool value
  | .date value => .int value.milliseconds
  | .ip value => .str value.text
  | .version text => .str text
  | .str text => .str text

/-- The value in messages. -/
def display : Value → String
  | .int value => toString value.toInt
  | .uint value => toString value.toNat
  | .float value => value.plain
  | .bool value => if value then "true" else "false"
  | .date value => value.text
  | .ip value => value.text
  | .version text => text
  | .str text => text

/-- Two values of one kind with the same content. Numbers with a point are the
same where the total order has them equal. -/
def same : Value → Value → Bool
  | .float a, .float b => a.same b
  | a, b => a == b

end Value
end SearchQuery
