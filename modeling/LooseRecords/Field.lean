/-!
# Fields and schemas

A schema lists the fields of typed records. Each field says where its values come from (the display
name used by raw records), under which name they go, and what type they have.
-/

namespace LooseRecords

/-- The types of fields. -/
inductive FieldType where
  | text
  | integer
  | float
  | date
  | boolean
  | option
  deriving DecidableEq, Repr

namespace FieldType

/-- All types, in the order in which messages list them. -/
def all : List FieldType := [.text, .integer, .float, .date, .boolean, .option]

/-- The name of a type. -/
def name : FieldType → String
  | .text => "TEXT"
  | .integer => "INTEGER"
  | .float => "FLOAT"
  | .date => "DATE"
  | .boolean => "BOOLEAN"
  | .option => "OPTION"

/-- The type with the given name. -/
def ofName? (name : String) : Option FieldType :=
  all.find? fun t => t.name = name

/-- Whether values of the type are ordered by size. -/
def IsNumeric (t : FieldType) : Prop :=
  t = .integer ∨ t = .float

instance (t : FieldType) : Decidable t.IsNumeric :=
  inferInstanceAs (Decidable (t = .integer ∨ t = .float))

end FieldType

/-- A field of typed records. -/
structure Field where
  /-- The name under which raw records hold the value. -/
  display : String
  /-- The name under which typed records hold the value. -/
  name : String
  type : FieldType
  /-- The values observed, for a field of type `option`. -/
  options : List String := []
  deriving DecidableEq, Repr

/-- The fields of typed records, in order. -/
structure Schema where
  fields : List Field
  deriving DecidableEq, Repr

namespace Schema

/-- The first field with the given name. -/
def field? (s : Schema) (name : String) : Option Field :=
  s.fields.find? fun f => f.name = name

/-- The first field with the given display name. -/
def fieldByDisplay? (s : Schema) (display : String) : Option Field :=
  s.fields.find? fun f => f.display = display

/-- The names of the fields. -/
def names (s : Schema) : List String :=
  s.fields.map (·.name)

end Schema
end LooseRecords
