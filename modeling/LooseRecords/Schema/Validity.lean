import LooseRecords.Field
import LooseRecords.Text.Blank

/-!
# Valid schemas

A schema from outside may be used if its names are not blank, if no two fields have the same name or
the same display name, and if only fields of type `option` list options. The check blames the first
field that breaks a rule with the fields before it.
-/

namespace LooseRecords

/-- Why a schema is not valid. -/
inductive SchemaFault where
  | emptyName (display : String)
  | duplicateName (name : String)
  | duplicateDisplay (display : String)
  | misplacedOptions (name : String) (type : FieldType)
  deriving DecidableEq, Repr

/-- The message of a fault. -/
def SchemaFault.message : SchemaFault → String
  | .emptyName display => "Field '" ++ display ++ "' has an empty name"
  | .duplicateName name => "Duplicate field name '" ++ name ++ "'"
  | .duplicateDisplay display => "Duplicate display name '" ++ display ++ "'"
  | .misplacedOptions name type => "Field '" ++ name ++ "' lists options but is " ++ type.name

namespace Schema

/-- What is wrong with a field after fields that have the given names and display names. -/
def fieldFault? (names displays : List String) (f : Field) : Option SchemaFault :=
  if Text.isBlankText f.name then some (.emptyName f.display)
  else if f.name ∈ names then some (.duplicateName f.name)
  else if f.display ∈ displays then some (.duplicateDisplay f.display)
  else if f.type ≠ .option ∧ f.options ≠ [] then some (.misplacedOptions f.name f.type)
  else none

/-- Checks fields that come after fields with the given names and display names. -/
def validateFrom (names displays : List String) : List Field → Except SchemaFault Unit
  | [] => .ok ()
  | f :: rest =>
      match fieldFault? names displays f with
      | some fault => .error fault
      | none => validateFrom (f.name :: names) (f.display :: displays) rest

/-- Checks that a schema is valid. -/
def validate (s : Schema) : Except SchemaFault Unit :=
  validateFrom [] [] s.fields

end Schema
end LooseRecords
