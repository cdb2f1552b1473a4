import LooseRecords.Entries
import LooseRecords.Scalar
import LooseRecords.TypedValue

/-!
# Records

A raw record maps display names to scalars, each name at most once, in the order in which the names
came up. A typed record has one value for each field of a schema, in the order of the schema.
-/

namespace LooseRecords

/-- A loosely structured record. -/
structure RawRecord where
  entries : Entries Scalar
  nodup : entries.keys.Nodup
  deriving Repr

namespace RawRecord

/-- The record without entries. -/
def empty : RawRecord :=
  ⟨[], List.nodup_nil⟩

/-- Puts a value under a display name: in the place of the value that is there, else at the end. -/
def insert (r : RawRecord) (display : String) (value : Scalar) : RawRecord :=
  ⟨r.entries.insert display value, Entries.nodup_keys_insert display value r.nodup⟩

/-- The value under a display name. -/
def get? (r : RawRecord) (display : String) : Option Scalar :=
  r.entries.get? display

/-- The record of the entries of a JSON object. -/
def ofObject (entries : List (String × Json)) : RawRecord :=
  entries.foldl (fun r (key, value) => r.insert key (.ofJson value)) empty

/-- The record of a JSON value. What is not an object becomes an empty record, which keeps its
place. -/
def ofJson : Json → RawRecord
  | .object entries => ofObject entries
  | _ => empty

/-- The typed value of a field. A display name that the record does not have gives null. -/
def coerceField (r : RawRecord) (f : Field) : TypedValue :=
  match r.get? f.display with
  | some raw => raw.coerce f.type
  | none => .null

end RawRecord

/-- A record with a typed value for each field of a schema. -/
structure TypedRecord where
  cells : List (String × TypedValue)
  deriving DecidableEq, Repr

namespace TypedRecord

/-- The value under a name; of several the first. -/
def get? (r : TypedRecord) (name : String) : Option TypedValue :=
  r.cells.lookup name

/-- The JSON object of a record. A repeated name is written as often as it stands. -/
def toJson (r : TypedRecord) : Json :=
  .object (r.cells.map fun (name, value) => (name, value.toJson))

end TypedRecord

/-- The typed record of a raw record under a schema. -/
def RawRecord.coerce (r : RawRecord) (s : Schema) : TypedRecord :=
  ⟨s.fields.map fun f => (f.name, r.coerceField f)⟩

/-- The typed records of raw records under a schema. -/
def coerceAll (records : List RawRecord) (s : Schema) : List TypedRecord :=
  records.map (·.coerce s)

end LooseRecords
