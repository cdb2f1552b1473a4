import LooseRecords.RequestError

/-!
# Where clauses

A where clause is a JSON object that maps names of fields to conditions, each an object with the
name of an operator as its only key and the operand under it. Reading a clause looks at its shape
only; whether its fields exist and its operands fit is checked against a schema when the clause is
resolved.
-/

namespace LooseRecords

/-- A condition as it is written: an operator and an operand that is still to be checked. -/
structure Request where
  operator : Operator
  operand : Json
  deriving Repr

namespace Request

/-- Reads a condition. -/
def ofJson : Json → Except ConditionFault Request
  | .object [(name, operand)] =>
      match Operator.ofName? name with
      | some operator => .ok ⟨operator, operand⟩
      | none => .error (.unknownOperator name)
  | .object _ => .error .notOneKey
  | .string name =>
      match Operator.ofName? name with
      | some _ => .error .noOperand
      | none => .error (.unknownOperator name)
  | value => .error (.notAnObject value.found)

/-- The JSON object of a condition. -/
def toJson (r : Request) : Json :=
  .object [(r.operator.name, r.operand)]

/-- The operand as a number, if it is one. -/
def number? (r : Request) : Option Binary64 :=
  match r.operand with
  | .number n => some n.toBinary64
  | _ => none

end Request

/-- The conditions of a query on the fields with the given names, all of which have to hold. -/
structure WhereClause where
  requests : List (String × Request)
  deriving Repr

namespace WhereClause

/-- Reads the condition on a field. -/
def readRequest (entry : String × Json) : Except RequestError (String × Request) :=
  match Request.ofJson entry.2 with
  | .ok request => .ok (entry.1, request)
  | .error fault => .error (.malformedCondition entry.1 fault)

/-- Reads a clause. -/
def ofJson : Json → Except RequestError WhereClause
  | .object [] => .error .emptyWhere
  | .object entries => do
      let requests ← entries.mapM readRequest
      .ok ⟨requests⟩
  | value => .error (.malformedWhere value.kind)

/-- Checks that a field exists and that its type fits the operator. -/
def checkField (s : Schema) (entry : String × Request) : Except RequestError Unit :=
  match s.field? entry.1 with
  | none => .error (.unknownField entry.1 s.names)
  | some field =>
      if entry.2.operator.NeedsNumber ∧ ¬field.type.IsNumeric then
        .error (.nonNumericField entry.1 entry.2.operator field.type)
      else .ok ()

/-- The numeric operand of a condition. -/
def numericOperand (entry : String × Request) : Except RequestError Binary64 :=
  match entry.2.number? with
  | some x => .ok x
  | none => .error (.nonNumericOperand entry.1 entry.2.operator)

/-- Checks that the operand is a number where the operator asks for one. -/
def checkNumber (entry : String × Request) : Except RequestError Unit :=
  if entry.2.operator.NeedsNumber then (numericOperand entry).map fun _ => () else .ok ()

/-- The scalar operand of a condition. -/
def scalarOperand (entry : String × Request) : Except RequestError Scalar :=
  match entry.2.operand with
  | .array _ => .error (.nonScalarOperand entry.1 .array)
  | .object _ => .error (.nonScalarOperand entry.1 .object)
  | operand => .ok (.ofJson operand)

/-- The condition that a request stands for. -/
def resolveRequest (entry : String × Request) : Except RequestError FieldCondition := do
  let condition ← match entry.2.operator with
    | .eq => (scalarOperand entry).map .equals
    | .gt => (numericOperand entry).map .greaterThan
    | .lt => (numericOperand entry).map .lessThan
  .ok ⟨entry.1, condition⟩

/-- The conditions of a clause under a schema. All fields are checked first, then the operands that
have to be numbers, then the others. -/
def resolve (c : WhereClause) (s : Schema) : Except RequestError (List FieldCondition) :=
  if c.requests.isEmpty then .error .emptyWhere
  else do
    c.requests.forM (checkField s)
    c.requests.forM checkNumber
    c.requests.mapM resolveRequest

end WhereClause
end LooseRecords
