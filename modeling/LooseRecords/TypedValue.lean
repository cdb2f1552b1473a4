import LooseRecords.Calendar.Reading
import LooseRecords.Field
import LooseRecords.Scalar
import LooseRecords.Token

/-!
# Typed values

What a raw value becomes under a field of a given type. Coercion never fails: a value that cannot be
read as the type of its field becomes null.
-/

namespace LooseRecords

/-- A value of a typed record. -/
inductive TypedValue where
  | null
  | text (s : String)
  | integer (n : Word)
  | float (x : Binary64)
  | date (t : Instant)
  | boolean (b : Bool)
  | option (s : String)
  deriving DecidableEq, Repr

namespace TypedValue

/-- The number of a numeric value. -/
def toNumber? : TypedValue → Option Binary64
  | .integer n => some (.ofInt n.val)
  | .float x => some x
  | _ => none

/-- The JSON value of a typed value; a number that is not finite becomes null. -/
def toJson : TypedValue → Json
  | .null => .null
  | .text s => .string s
  | .integer n => .number (.integer (.ofWord n))
  | .float x => (Json.Number.ofBinary64? x).elim .null .number
  | .date t => .string t.text
  | .boolean b => .bool b
  | .option s => .string s

end TypedValue

namespace Scalar

/-- The instant that a value denotes: milliseconds since 1970, or a written date. -/
def toInstant? : Scalar → Option Instant
  | .number x => Instant.ofEpochNumber? x
  | .text s => Instant.ofText? s
  | _ => none

/-- The truth value that a value denotes: a truth value, one, zero, or a word for it. -/
def toBool? : Scalar → Option Bool
  | .bool b => some b
  | .number x =>
      if x.Equals (.ofInt 1) then some true else if x.Equals (.ofInt 0) then some false else none
  | .text s => Token.bool? s
  | .null => none

/-- The value that is read as the given type, if it can be. -/
def read? (raw : Scalar) : FieldType → Option TypedValue
  | .text => raw.toText?.map .text
  | .integer => (raw.toNumber?.bind fun x => Word.ofInt? x.truncate).map .integer
  | .float => raw.toNumber?.map fun x => .float (.finite x)
  | .date => raw.toInstant?.map .date
  | .boolean => raw.toBool?.map .boolean
  | .option => raw.toText?.map fun s => .option (Token.normalize s)

/-- The value under a field of the given type. A blank value is null under every type. -/
def coerce (raw : Scalar) (type : FieldType) : TypedValue :=
  if raw.isBlank then .null else (raw.read? type).getD .null

end Scalar
end LooseRecords
