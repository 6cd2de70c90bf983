import SearchQuery.Value.Reader

/-!
# Errors

The ways in which merging and compiling conditions fail, each with its wording.
-/

namespace SearchQuery

/-- What is wrong with a value of a condition. -/
inductive InvalidReason
  | unreadable (cause : Unreadable)
  | boost

/-- What a comparison asks of the number of its values. -/
inductive Demand
  | oneValue
  | someValue
  | someId
  | twoValues

/-- What is wrong with a condition as a whole. -/
inductive RequestFault
  | values (comparison field : String) (demand : Demand)
  | range (type : FieldType) (field : String)

/-- Why conditions cannot be merged or compiled. -/
inductive Error
  | boostConflict (field : String) (left right : Binary64)
  | valueConflict (field left right : String)
  | emptyIntersection (field : String)
  | typeMismatch (left right : String)
  | missingOperand (operation : String)
  | invalidValue (field value : String) (reason : InvalidReason)
  | unknownField (field : String)
  | invalidPattern (kind pattern : String)
  | invalidRequest (fault : RequestFault)

namespace InvalidReason

/-- The wording of a reason. -/
def message : InvalidReason → String
  | .unreadable cause => cause.message
  | .boost => "boost must be a non-negative number"

end InvalidReason

namespace Demand

/-- The wording of a demand. -/
def message : Demand → String
  | .oneValue => "expected exactly one value"
  | .someValue => "equality needs a value"
  | .someId => "ids require at least one value"
  | .twoValues => "range needs a lower and an upper value"

end Demand

namespace RequestFault

/-- The wording of a fault. -/
def message : RequestFault → String
  | .values comparison field demand =>
      comparison ++ " on '" ++ field ++ "': " ++ demand.message
  | .range type field => "range on " ++ type.name ++ " field '" ++ field ++ "'"

end RequestFault

namespace Error

/-- The wording of an error. -/
def message : Error → String
  | .boostConflict field left right =>
      "Boost conflict on field '" ++ field ++ "': " ++ left.plain ++ " vs " ++
        right.plain
  | .valueConflict field left right =>
      "Value conflict on field '" ++ field ++ "': " ++ left ++ " and " ++ right
        ++ " cannot both hold"
  | .emptyIntersection field =>
      "Empty intersection: ranges on field '" ++ field ++ "' do not overlap"
  | .typeMismatch left right =>
      "Type mismatch: cannot merge " ++ left ++ " with " ++ right
  | .missingOperand operation => "Missing operand for " ++ operation
  | .invalidValue field value reason =>
      "Invalid value '" ++ value ++ "' for field '" ++ field ++ "': " ++
        reason.message
  | .unknownField field => "Unknown field: " ++ field
  | .invalidPattern kind pattern =>
      "Invalid pattern: " ++ kind ++ " '" ++ pattern ++ "'"
  | .invalidRequest fault => "Invalid request: " ++ fault.message

/-- The operands contradict each other, whoever asks. -/
def isConflict : Error → Bool
  | .boostConflict .. => true
  | .valueConflict .. => true
  | .emptyIntersection .. => true
  | .typeMismatch .. => true
  | _ => false

end Error
end SearchQuery
