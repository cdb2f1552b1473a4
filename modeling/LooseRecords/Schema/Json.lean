import LooseRecords.Field
import LooseRecords.Json.Found
import LooseRecords.Json.Reader

/-!
# Schemas as JSON values

A schema is written as an array of objects, one for each field, with the keys `display`, `name`,
`type` and `options`. Reading one accepts the keys in any order, ignores others, and takes missing
options for none; a field may also be an array of its parts.
-/

namespace LooseRecords

/-- The JSON object of a field. -/
def Field.toJson (f : Field) : Json :=
  .object [("display", .string f.display), ("name", .string f.name), ("type", .string f.type.name),
    ("options", .array (f.options.map .string))]

/-- The JSON array of a schema. -/
def Schema.toJson (s : Schema) : Json :=
  .array (s.fields.map Field.toJson)

/-- The parts of a field that a written schema gives. -/
inductive Part where
  | display
  | name
  | type
  | options
  deriving DecidableEq, Repr

namespace Part

/-- The key of a part. -/
def key : Part → String
  | display => "display"
  | name => "name"
  | type => "type"
  | options => "options"

/-- The part with the given key. -/
def ofKey? (key : String) : Option Part :=
  [display, name, type, options].find? fun part => part.key = key

end Part

/-- What is due where something else was found in a written schema. -/
inductive Expected where
  | sequence
  | string
  | stringOrMap
  | field
  | variantName
  | unit
  deriving DecidableEq, Repr

/-- How messages name what is due. -/
def Expected.description : Expected → String
  | .sequence => "a sequence"
  | .string => "a string"
  | .stringOrMap => "string or map"
  | .field => "struct FieldDescriptor"
  | .variantName => "variant identifier"
  | .unit => "unit"

/-- Why a written schema is no schema. -/
inductive DecodeFault where
  /-- The text is not JSON. -/
  | text (fault : Json.Fault)
  | wrongKind (found : String) (expected : Expected)
  | missingPart (part : Part)
  | duplicatePart (part : Part)
  | unknownType (name : String)
  | notOneKey
  | tooFewParts (count : Nat)
  | tooManyParts (count : Nat)
  deriving DecidableEq, Repr

/-- The message of a fault. -/
def DecodeFault.message : DecodeFault → String
  | .text fault => fault.message
  | .wrongKind found expected => "invalid type: " ++ found ++ ", expected " ++ expected.description
  | .missingPart part => "missing field \x60" ++ part.key ++ "\x60"
  | .duplicatePart part => "duplicate field \x60" ++ part.key ++ "\x60"
  | .unknownType name =>
      "unknown variant \x60" ++ name ++ "\x60, expected one of " ++
        String.intercalate ", " (FieldType.all.map fun t => "\x60" ++ t.name ++ "\x60")
  | .notOneKey => "invalid value: map, expected map with a single key"
  | .tooFewParts count =>
      "invalid length " ++ Digits.text count ++ ", expected struct FieldDescriptor with 4 elements"
  | .tooManyParts count =>
      "invalid length " ++ Digits.text count ++ ", expected fewer elements in array"

/-- The parts of a field that were read so far. -/
structure PartialField where
  display : Option String := none
  name : Option String := none
  type : Option FieldType := none
  options : Option (List String) := none
  deriving DecidableEq, Repr

namespace PartialField

/-- Whether a part was read. -/
def has (f : PartialField) : Part → Bool
  | .display => f.display.isSome
  | .name => f.name.isSome
  | .type => f.type.isSome
  | .options => f.options.isSome

/-- The field that the parts make. Only options may be missing. -/
def complete (f : PartialField) : Except DecodeFault Field :=
  match f.display, f.name, f.type with
  | none, _, _ => .error (.missingPart .display)
  | _, none, _ => .error (.missingPart .name)
  | _, _, none => .error (.missingPart .type)
  | some display, some name, some type => .ok ⟨display, name, type, f.options.getD []⟩

end PartialField

namespace FieldType

/-- The type with the given name. -/
def ofName (name : String) : Except DecodeFault FieldType :=
  match ofName? name with
  | some type => .ok type
  | none => .error (.unknownType name)

/-- Reads the name of a type, which may also be the only key of an object that has null under it. -/
def ofJson : Json → Except DecodeFault FieldType
  | .string name => ofName name
  | .object [(name, value)] => do
      let type ← ofName name
      match value with
      | .null => .ok type
      | value => .error (.wrongKind value.found .unit)
  | .object _ => .error .notOneKey
  | value => .error (.wrongKind value.found .stringOrMap)

end FieldType

namespace Schema

/-- Reads a string. -/
def decodeString : Json → Except DecodeFault String
  | .string s => .ok s
  | value => .error (.wrongKind value.found .string)

/-- Reads an array of strings. -/
def decodeStrings : Json → Except DecodeFault (List String)
  | .array items => items.mapM decodeString
  | value => .error (.wrongKind value.found .sequence)

/-- Reads a part of a field. -/
def decodePart (f : PartialField) (value : Json) : Part → Except DecodeFault PartialField
  | .display => (decodeString value).map fun s => { f with display := some s }
  | .name => (decodeString value).map fun s => { f with name := some s }
  | .type => (FieldType.ofJson value).map fun t => { f with type := some t }
  | .options => (decodeStrings value).map fun options => { f with options := some options }

/-- Reads an entry of the object of a field. Entries with other keys are ignored. -/
def decodeEntry (f : PartialField) (entry : String × Json) : Except DecodeFault PartialField :=
  match Part.ofKey? entry.1 with
  | some part => decodePart f entry.2 part
  | none => .ok f

/-- Reads the parts of a field from the items of an array, in order. -/
def decodeParts (items : List Json) : Except DecodeFault Field := do
  let entries := items.zip [Part.display, .name, .type, .options]
  let f ← entries.foldlM (fun f entry => decodePart f entry.1 entry.2) {}
  if items.length < 3 then .error (.tooFewParts items.length)
  else if 4 < items.length then .error (.tooManyParts items.length)
  else f.complete

/-- Reads a field. -/
def decodeField : Json → Except DecodeFault Field
  | .object entries => do
      let f ← entries.foldlM decodeEntry {}
      f.complete
  | .array items => decodeParts items
  | value => .error (.wrongKind value.found .field)

/-- Reads a schema. It is not checked for being valid. -/
def ofJson : Json → Except DecodeFault Schema
  | .array items => do
      let fields ← items.mapM decodeField
      .ok ⟨fields⟩
  | value => .error (.wrongKind value.found .sequence)

end Schema
end LooseRecords
