import SearchQuery.Schema.FieldType
import SearchQuery.Text.Blank
import SearchQuery.Time.Reader
import SearchQuery.Value.Basic

/-!
# Reading values

The text of a value is read under the type of its field, after blanks at its
ends are dropped. Each way to fail has its own cause.
-/

namespace SearchQuery

/-- Why a text is no value of a type. -/
inductive Unreadable
  | integer
  | integerRange
  | long
  | unsignedLong
  | number
  | notANumber
  | boolean
  | date (text : String)
  | address (text : String)
  | prefixLength (text : String)
  | prefixTooLong (length width : Nat)
  | version

namespace Unreadable

/-- The wording of a cause. -/
def message : Unreadable → String
  | .integer => "Integer field requires an integer value"
  | .integerRange => "Integer value out of 32-bit range"
  | .long => "Long field requires an integer value"
  | .unsignedLong => "Unsigned long field requires a non-negative integer"
  | .number => "Floating point field requires a numeric value"
  | .notANumber => "NaN is not a valid field value"
  | .boolean => "Boolean field requires true or false"
  | .date text => "'" ++ text ++ "' is not a supported date"
  | .address text => "'" ++ text ++ "' is not an IP address"
  | .prefixLength text => "'" ++ text ++ "' is not a CIDR prefix length"
  | .prefixTooLong length width =>
      "CIDR prefix " ++ toString length ++ " exceeds " ++ toString width
  | .version => "Version must be a non-empty dotted string"

end Unreadable

namespace Value

/-- A block: an address, and after a slash the length of the network part. -/
def readBlock (text : String) : Except Unreadable Block := do
  let (addressText, lengthText?) :=
    match Text.splitFirst? '/' text.toList with
    | some (before, after) => (before, some after)
    | none => (text.toList, none)
  let some address := Address.ofText? addressText
    | throw (.address (String.ofList addressText))
  match lengthText? with
  | none => return ⟨address, UInt8.ofNat address.width⟩
  | some lengthText =>
      let some length := Text.natural? (Nat.pow 2 8) lengthText
        | throw (.prefixLength (String.ofList lengthText))
      if address.width < length then throw (.prefixTooLong length address.width)
      return ⟨address, UInt8.ofNat length⟩

/-- Read a text without blanks at its ends. -/
def readTrimmed (type : FieldType) (text : String) : Except Unreadable Value :=
  match type with
  | .integer =>
      match Text.integer? text.toList with
      | none => .error .integer
      | some value =>
          if -(Nat.pow 2 31) ≤ value.toInt ∧ value.toInt < Nat.pow 2 31 then
            .ok (.int value)
          else .error .integerRange
  | .long =>
      match Text.integer? text.toList with
      | none => .error .long
      | some value => .ok (.int value)
  | .unsignedLong =>
      match Text.natural? (Nat.pow 2 64) text.toList with
      | none => .error .unsignedLong
      | some value => .ok (.uint (UInt64.ofNat value))
  | .float | .double =>
      match Binary64.ofText? text with
      | none => .error .number
      | some value =>
          if value.isNaN then .error .notANumber else .ok (.float value)
  | .keyword | .text => .ok (.str text)
  | .boolean =>
      let lowered := String.ofList (text.toList.map Char.toLower)
      if lowered = "true" then .ok (.bool true)
      else if lowered = "false" then .ok (.bool false)
      else .error .boolean
  | .date =>
      match Instant.ofText? text with
      | none => .error (.date text)
      | some value => .ok (.date value)
  | .ip => (readBlock text).map .ip
  | .version =>
      if text.isEmpty ∨ text.toList.any Text.isBlank then .error .version
      else .ok (.version text)

/-- Read a text as a value of a field type. -/
def read (type : FieldType) (text : String) : Except Unreadable Value :=
  readTrimmed type (Text.trim text)

end Value
end SearchQuery
