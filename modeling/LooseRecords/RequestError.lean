import LooseRecords.Condition
import LooseRecords.Json.Found
import LooseRecords.Schema.Validity

/-!
# Rejected requests

Why a request to describe or to query records is turned down, and how that is said.
-/

namespace LooseRecords

/-- Why a JSON value is no condition. -/
inductive ConditionFault where
  /-- It is an object, but not one with a single key. -/
  | notOneKey
  /-- Its only key, or the word it is, names no operator. -/
  | unknownOperator (name : String)
  /-- It is the name of an operator without an operand. -/
  | noOperand
  /-- It is neither an object nor a word. -/
  | notAnObject (found : String)
  deriving DecidableEq, Repr

/-- The message of a fault. -/
def ConditionFault.message : ConditionFault → String
  | .notOneKey => "invalid value: map, expected map with a single key"
  | .unknownOperator name =>
      "unknown variant \x60" ++ name ++
        "\x60, expected one of \x60eq\x60, \x60gt\x60, \x60lt\x60"
  | .noOperand => "invalid type: unit variant, expected newtype variant"
  | .notAnObject found => "invalid type: " ++ found ++ ", expected string or map"

/-- Why a request is rejected. -/
inductive RequestError where
  | notACollection (found : Json.Kind)
  | emptyWhere
  | malformedWhere (found : Json.Kind)
  | malformedCondition (field : String) (fault : ConditionFault)
  | unknownField (field : String) (available : List String)
  | nonNumericField (field : String) (operator : Operator) (type : FieldType)
  | nonNumericOperand (field : String) (operator : Operator)
  | nonScalarOperand (field : String) (found : Json.Kind)
  | invalidSchema (fault : SchemaFault)
  deriving DecidableEq, Repr

namespace RequestError

/-- Who can do something about an error. -/
inductive Category where
  /-- The data cannot be used. -/
  | structural
  /-- The request can be corrected. -/
  | validation
  deriving DecidableEq, Repr

/-- Only data that are no collection cannot be helped by another request. -/
def category : RequestError → Category
  | notACollection _ => .structural
  | _ => .validation

/-- The message of an error. -/
def message : RequestError → String
  | notACollection found => "Expected a collection of records but found " ++ found.description
  | emptyWhere => "Where clause must contain at least one condition"
  | malformedWhere found =>
      "Where clause must be an object mapping field names to conditions, found " ++
        found.description
  | malformedCondition field fault =>
      "Condition for field '" ++ field ++ "' is malformed: " ++ fault.message
  | unknownField field available =>
      "Field '" ++ field ++ "' does not exist in the schema. Available fields: " ++
        String.intercalate ", " available
  | nonNumericField field operator type =>
      "Operator '" ++ operator.name ++ "' requires a numeric field but '" ++ field ++ "' is " ++
        type.name
  | nonNumericOperand field operator =>
      "Operator '" ++ operator.name ++ "' on field '" ++ field ++ "' requires a numeric operand"
  | nonScalarOperand field found =>
      "Operator 'eq' on field '" ++ field ++ "' requires a scalar operand, found " ++
        found.description
  | invalidSchema fault => "Invalid schema: " ++ fault.message

end RequestError
end LooseRecords
