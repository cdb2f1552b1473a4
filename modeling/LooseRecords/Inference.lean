import LooseRecords.Text.Quoted
import LooseRecords.TypedValue

/-!
# Inference of field types

The type of a field is inferred from the values observed under it. Rules are tried in a fixed order,
and the first one that accepts every value other than null decides: truth values, dates, numbers,
and last categories, which are texts of few distinct values. What no rule accepts is text.
-/

namespace LooseRecords

/-- How many distinct values make a category. -/
structure Thresholds where
  least : Nat := 2
  most : Nat := 10
  deriving DecidableEq, Repr

/-- What was found out about the values of a field. -/
inductive Inference where
  /-- There were no values, or all of them were null. -/
  | undetermined
  | typed (type : FieldType)
  /-- The values are of a category that has these values. -/
  | options (values : List String)
  deriving DecidableEq, Repr

namespace Inference

/-- The type of the field. -/
def type : Inference → FieldType
  | undetermined => .text
  | typed type => type
  | options _ => .option

/-- The values of the category; none where the values are of no category. -/
def values : Inference → List String
  | options values => values
  | _ => []

/-- Whether a value is a truth value, or a text that names one. -/
def isBoolean : Scalar → Bool
  | .bool _ => true
  | .text s => (Token.boolLiteral? s).isSome
  | _ => false

/-- Whether a value is a text that denotes a date. -/
def isDate : Scalar → Bool
  | .text s => (Instant.ofText? s).isSome
  | _ => false

/-- Values are truth values if all are and no null is among them. -/
def boolean? (present : List Scalar) (hasNull : Bool) : Option Inference :=
  if !hasNull && present.all isBoolean then some (typed .boolean) else none

/-- Values are dates if all of them are. -/
def date? (present : List Scalar) : Option Inference :=
  if present.all isDate then some (typed .date) else none

/-- Values are numbers if all of them are: integers if all are whole. -/
def numeric? (present : List Scalar) : Option Inference :=
  (present.mapM Scalar.toNumber?).map fun numbers =>
    if numbers.all (fun x => x.IsWhole) then typed .integer else typed .float

/-- The members of a list, each at its first place only. -/
def distinct (tokens : List String) : List String :=
  (tokens.foldl (fun seen token => if token ∈ seen then seen else token :: seen) []).reverse

/-- The distinct tokens of values, in the order in which they first come up. -/
def tokens (present : List Scalar) : List String :=
  distinct (present.filterMap fun value => value.toText?.map Token.normalize)

/-- Values are of a category if their distinct tokens are neither too few nor too many. -/
def category? (limits : Thresholds) (present : List Scalar) : Option Inference :=
  let found := tokens present
  if limits.least ≤ found.length ∧ found.length ≤ limits.most then some (options found) else none

/-- What the values of a field show. -/
def ofValues (limits : Thresholds) (values : List Scalar) : Inference :=
  let present := values.filter (!·.isNull)
  let hasNull := decide (present.length < values.length)
  if present = [] then undetermined
  else
    (boolean? present hasNull <|> date? present <|> numeric? present <|>
      category? limits present).getD (typed .text)

/-- What the journal says was inferred. -/
def description : Inference → String
  | undetermined => "Undetermined"
  | typed .text => "Typed(Text)"
  | typed .integer => "Typed(Integer)"
  | typed .float => "Typed(Float)"
  | typed .date => "Typed(Date)"
  | typed .boolean => "Typed(Boolean)"
  | typed .option => "Typed(Option)"
  | options values => "Options(" ++ Text.quoteList values ++ ")"

end Inference
end LooseRecords
