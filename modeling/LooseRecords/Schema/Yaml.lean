import LooseRecords.Field
import LooseRecords.Schema.Json
import LooseRecords.Text.Symbol
import LooseRecords.Yaml.Node
import LooseRecords.Yaml.Style

/-!
# Schemas in YAML

A schema is written as a list of mappings in blocks. Reading one takes any scalar for a string, as
it stands; a document without content, or an empty value, is an empty list.
-/

namespace LooseRecords
namespace Schema

open Text (Symbol)
open Yaml (Node)

/-! ### Writing -/

/-- The lines of a field. -/
def yamlField (f : Field) : List Char :=
  "- display: ".toList ++ Yaml.writeString 4 f.display.toList ++
    "  name: ".toList ++ Yaml.writeString 4 f.name.toList ++
    "  type: ".toList ++ Yaml.writeString 4 f.type.name.toList ++
    (if f.options.isEmpty then "  options: []\n".toList
    else
      "  options:\n".toList ++
        f.options.flatMap fun option => "  - ".toList ++ Yaml.writeString 4 option.toList)

/-- The text of a schema in YAML. -/
def toYaml (s : Schema) : String :=
  if s.fields.isEmpty then "[]\n" else String.ofList (s.fields.flatMap yamlField)

/-! ### Reading -/

/-- Reads a string. -/
def yamlString? : Node → Option String
  | .scalar text _ _ => some (String.ofList text)
  | _ => none

/-- Reads a list; `item?` reads an item. -/
def yamlList? {α : Type} (item? : Node → Option α) : Node → Option (List α)
  | .sequence items => items.mapM item?
  | .scalar [] true _ => some []
  | _ => none

/-- The words for nothing. -/
def yamlNulls : List (List Char) :=
  [['~'], ['n', 'u', 'l', 'l'], ['N', 'u', 'l', 'l'], ['N', 'U', 'L', 'L']]

/-- Reads a type: its name, or nothing after its name as a tag. Tags of other kinds do not matter.
-/
def yamlType? : Node → Option FieldType
  | .scalar text plain (some ('!' :: word)) =>
      if text.isEmpty || (plain && yamlNulls.any (· == text)) then FieldType.ofName? (String.ofList word)
      else none
  | .scalar text _ _ => FieldType.ofName? (String.ofList text)
  | _ => none

/-- Reads a part of a field, which may come once only. -/
def yamlPart? (f : PartialField) (value : Node) (part : Part) : Option PartialField :=
  if f.has part then none
  else
    match part with
    | .display => (yamlString? value).map fun s => { f with display := some s }
    | .name => (yamlString? value).map fun s => { f with name := some s }
    | .type => (yamlType? value).map fun t => { f with type := some t }
    | .options =>
        (yamlList? yamlString? value).map fun options => { f with options := some options }

/-- Reads an entry of the mapping of a field. Entries with other keys are ignored. -/
def yamlEntry? (f : PartialField) (entry : Node × Node) : Option PartialField := do
  let key ← yamlString? entry.1
  match Part.ofKey? key with
  | some part => yamlPart? f entry.2 part
  | none => some f

/-- Reads a field. -/
def yamlField? : Node → Option Field
  | .mapping entries => do
      let f ← entries.foldlM yamlEntry? {}
      f.complete.toOption
  | _ => none

/-- Reads the content of a YAML file that is one schema. It is not checked for being valid. -/
def ofYaml? (content : List Symbol) : Option Schema := do
  let cs ← Symbol.chars? content
  match ← Node.ofChars? cs with
  | none => some ⟨[]⟩
  | some root => (yamlList? yamlField? root).map Schema.mk

end Schema
end LooseRecords
