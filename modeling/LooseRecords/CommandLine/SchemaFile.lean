import LooseRecords.CommandLine.Failure
import LooseRecords.Schema.JsonText
import LooseRecords.Schema.Yaml

/-!
# Schema files

A schema is kept in a file as JSON or as YAML; the extension of the file says which. What is loaded
has to be a valid schema.
-/

namespace LooseRecords

open Text (Symbol)

/-- How a schema is written in a file. -/
inductive SchemaFormat where
  | json
  | yaml
  deriving DecidableEq, Repr

namespace SchemaFormat

/-- The format of the file with the given name. The case of the extension does not matter. -/
def ofName (name : String) : SchemaFormat :=
  match (FileName.extension? name).map fun extension => extension.map Char.toLower with
  | some ['y', 'm', 'l'] => .yaml
  | some ['y', 'a', 'm', 'l'] => .yaml
  | _ => .json

/-- The text of a schema. JSON ends without a new line. -/
def write : SchemaFormat → Schema → String
  | .json, s => s.toJson.prettyText
  | .yaml, s => s.toYaml

/-- Reads the content of a file. The schema is not checked for being valid. -/
def read : SchemaFormat → List Symbol → Except Failure Schema
  | .json, content =>
      Activity.parsingSchema.around (Failure.blame .schema (Schema.ofJsonSymbols content))
  | .yaml, content =>
      match Schema.ofYaml? content with
      | some s => .ok s
      | none => .error ⟨[], .yaml⟩

/-- The failure to read a directory. -/
def directoryFailure : SchemaFormat → Failure
  | .json => ⟨[.parsingSchema], .file .isADirectory⟩
  | .yaml => ⟨[], .yaml⟩

end SchemaFormat

namespace Schema

/-- Checks that a schema is valid. -/
def check (s : Schema) : Except RequestError Unit :=
  s.validate.mapError .invalidSchema

/-- Loads a schema from the file with the given name. -/
def load (files : Files) (name : String) : Except Failure Schema := do
  let format := SchemaFormat.ofName name
  let s ← match files.read name with
    | .ok content => format.read content
    | .error .isADirectory => .error format.directoryFailure
    | .error fault => .error ⟨[.openingSchema name], .file fault⟩
  (Activity.validatingSchema name).around (Failure.blame .request s.check)
  .ok s

/-- The path to save a schema at. -/
def saveTarget (files : Files) (name : String) : Except Failure Path :=
  (Activity.creatingSchema name).around (Failure.blame .file (files.target name))

/-- Saves a schema to the file with the given name. -/
def save (files : Files) (name : String) (s : Schema) : Except Failure Files := do
  let path ← saveTarget files name
  .ok (files.put path (Symbol.ofText ((SchemaFormat.ofName name).write s)))

end Schema
end LooseRecords
