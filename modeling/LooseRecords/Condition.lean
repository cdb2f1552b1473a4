import LooseRecords.Record

/-!
# Conditions

A condition compares the value of a field with an operand. Values of a category are compared as
tokens, dates with anything that denotes a date, and all other values with scalars of their own
kind.
-/

namespace LooseRecords

/-- The comparisons of conditions. -/
inductive Operator where
  | eq
  | gt
  | lt
  deriving DecidableEq, Repr

namespace Operator

/-- The name of an operator. -/
def name : Operator → String
  | eq => "eq"
  | gt => "gt"
  | lt => "lt"

/-- Whether an operator asks for numbers. -/
def NeedsNumber (op : Operator) : Prop :=
  op = .gt ∨ op = .lt

instance (op : Operator) : Decidable op.NeedsNumber :=
  inferInstanceAs (Decidable (op = .gt ∨ op = .lt))

/-- The operator with the given name. -/
def ofName? (name : String) : Option Operator :=
  if name = "eq" then some .eq
  else if name = "gt" then some .gt
  else if name = "lt" then some .lt
  else none

/-- The operator that a word or a sign stands for, in any case and with blanks around it. -/
def ofToken? (text : String) : Option Operator :=
  let token := Token.asciiWord text
  if token = "eq" ∨ token = "=" then some .eq
  else if token = "gt" ∨ token = ">" then some .gt
  else if token = "lt" ∨ token = "<" then some .lt
  else none

end Operator

/-- A condition on a value. -/
inductive Condition where
  | equals (operand : Scalar)
  | greaterThan (threshold : Binary64)
  | lessThan (threshold : Binary64)
  deriving DecidableEq, Repr

namespace Condition

/-- The comparison that a condition makes. -/
def operator : Condition → Operator
  | equals _ => .eq
  | greaterThan _ => .gt
  | lessThan _ => .lt

/-- Whether a value is equal to an operand. -/
def EqualsOperand : TypedValue → Scalar → Prop
  | .null, .null => True
  | .integer n, .number x => (Binary64.ofInt n.val).Equals x
  | .float y, .number x => y.Equals x
  | .boolean b, .bool o => b = o
  | .text s, .text o => s = o
  | .option s, operand => operand.toText?.map Token.normalize = some s
  | .date t, .text o => Instant.ofText? o = some t
  | .date t, .number x => Instant.ofEpochNumber? x = some t
  | _, _ => False

instance (value : TypedValue) (operand : Scalar) : Decidable (EqualsOperand value operand) := by
  unfold EqualsOperand
  split <;> infer_instance

/-- Whether a value meets a condition. -/
def Matches (value : TypedValue) : Condition → Prop
  | equals operand => EqualsOperand value operand
  | greaterThan threshold => ∃ x ∈ value.toNumber?, threshold < x
  | lessThan threshold => ∃ x ∈ value.toNumber?, x < threshold

/-- Whether there is a value in an option that has a decidable property. -/
instance decidableExistsMem {α : Type} (o : Option α) (p : α → Prop) [DecidablePred p] :
    Decidable (∃ x ∈ o, p x) :=
  match o with
  | none => isFalse (by simp)
  | some x => decidable_of_iff (p x) (by simp)

instance (value : TypedValue) (c : Condition) : Decidable (c.Matches value) := by
  unfold Matches
  split <;> infer_instance

end Condition

/-- A condition on the field with a name. -/
structure FieldCondition where
  field : String
  condition : Condition
  deriving DecidableEq, Repr

/-- Whether a record has the field and its value meets the condition. -/
def FieldCondition.Holds (c : FieldCondition) (r : TypedRecord) : Prop :=
  ∃ value ∈ r.get? c.field, c.condition.Matches value

instance (c : FieldCondition) (r : TypedRecord) : Decidable (c.Holds r) :=
  inferInstanceAs (Decidable (∃ value ∈ r.get? c.field, c.condition.Matches value))

/-- The records that meet a condition, in order. -/
def FieldCondition.select (c : FieldCondition) (records : List TypedRecord) : List TypedRecord :=
  records.filter (fun r => c.Holds r)

/-- The records that remain after one condition after the other. -/
def narrow (records : List TypedRecord) (conditions : List FieldCondition) : List TypedRecord :=
  conditions.foldl (fun remaining c => c.select remaining) records

end LooseRecords
