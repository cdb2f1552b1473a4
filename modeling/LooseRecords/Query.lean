import LooseRecords.Schema.Inferred
import LooseRecords.WhereClause

/-!
# Describing and querying data

The two things that can be asked of a JSON array of records: its schema, and the typed records that
meet the conditions of a where clause.
-/

namespace LooseRecords

/-- The raw records of a JSON array. Items that are not objects become empty records, so that every
record keeps its place. -/
def readRecords : Json → Except RequestError (List RawRecord)
  | .array items => .ok (items.map RawRecord.ofJson)
  | value => .error (.notACollection value.kind)

/-- The schema of data. -/
def describe (limits : Thresholds) (data : Json) : Except RequestError Schema := do
  let records ← readRecords data
  .ok (.infer limits records)

/-- The typed records that meet all conditions of a clause. The clause is resolved before any record
is looked at. -/
def query (records : List RawRecord) (s : Schema) (c : WhereClause) :
    Except RequestError (List TypedRecord) := do
  let conditions ← c.resolve s
  .ok (narrow (coerceAll records s) conditions)

/-- The typed records of data that meet all conditions of a clause, under the schema that is
inferred. -/
def queryData (limits : Thresholds) (data whereValue : Json) :
    Except RequestError (List TypedRecord) := do
  let records ← readRecords data
  let clause ← WhereClause.ofJson whereValue
  query records (.infer limits records) clause

end LooseRecords
