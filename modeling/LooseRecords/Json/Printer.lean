import LooseRecords.Json.Value
import LooseRecords.Number.Layout

/-!
# JSON texts

A value is written compactly, without any blank, or laid out over lines with an indentation of two
spaces for each level. Within a string only the quotation mark, the backslash and the controls below
the space are escaped.
-/

namespace LooseRecords
namespace Json

/-- How one character of a string is written. -/
def escape (c : Char) : List Char :=
  if c = '"' ∨ c = '\\' then ['\\', c]
  else if c = '\x08' then ['\\', 'b']
  else if c = '\x0c' then ['\\', 'f']
  else if c = '\n' then ['\\', 'n']
  else if c = '\r' then ['\\', 'r']
  else if c = '\t' then ['\\', 't']
  else if c.toNat < 0x20 then
    ['\\', 'u', '0', '0', Digits.digitChar (c.toNat / 16), Digits.digitChar (c.toNat % 16)]
  else [c]

/-- A string between quotation marks. -/
def quote (s : String) : List Char :=
  '"' :: s.toList.flatMap escape ++ ['"']

/-- The text of a number. -/
def Number.chars : Number → List Char
  | .integer n => Digits.signed n.val
  | .decimal x => Layout.json.write x

/-- The word of a truth value. -/
def boolChars : Bool → List Char
  | true => ['t', 'r', 'u', 'e']
  | false => ['f', 'a', 'l', 's', 'e']

/-- The word for the absence of a value. -/
def nullChars : List Char := ['n', 'u', 'l', 'l']

mutual

/-- The compact text of a value. -/
def chars : Json → List Char
  | .null => nullChars
  | .bool b => boolChars b
  | .number n => n.chars
  | .string s => quote s
  | .array items => '[' :: itemChars items ++ [']']
  | .object entries => '{' :: entryChars entries ++ ['}']

/-- The compact texts of the items of an array, separated by commas. -/
def itemChars : List Json → List Char
  | [] => []
  | item :: rest => chars item ++ moreItemChars rest

/-- The compact texts of further items, each after a comma. -/
def moreItemChars : List Json → List Char
  | [] => []
  | item :: rest => ',' :: chars item ++ moreItemChars rest

/-- The compact texts of the entries of an object, separated by commas. -/
def entryChars : List (String × Json) → List Char
  | [] => []
  | (key, value) :: rest => quote key ++ ':' :: chars value ++ moreEntryChars rest

/-- The compact texts of further entries, each after a comma. -/
def moreEntryChars : List (String × Json) → List Char
  | [] => []
  | (key, value) :: rest => ',' :: quote key ++ ':' :: chars value ++ moreEntryChars rest

end

/-- The compact text of a value. -/
def text (value : Json) : String :=
  String.ofList value.chars

/-- A new line with the indentation of a level. -/
def lineBreak (level : Nat) : List Char :=
  '\n' :: List.replicate (2 * level) ' '

mutual

/-- The text of a value over several lines, at a level of indentation. An empty array or object
stays on its line. -/
def lines (level : Nat) : Json → List Char
  | .null => nullChars
  | .bool b => boolChars b
  | .number n => n.chars
  | .string s => quote s
  | .array [] => ['[', ']']
  | .array (item :: rest) =>
      '[' :: lineBreak (level + 1) ++ lines (level + 1) item ++ moreItemLines (level + 1) rest ++
        lineBreak level ++ [']']
  | .object [] => ['{', '}']
  | .object ((key, value) :: rest) =>
      '{' :: lineBreak (level + 1) ++ quote key ++ [':', ' '] ++ lines (level + 1) value ++
        moreEntryLines (level + 1) rest ++ lineBreak level ++ ['}']

/-- Further items, each after a comma on a line of its own. -/
def moreItemLines (level : Nat) : List Json → List Char
  | [] => []
  | item :: rest => ',' :: lineBreak level ++ lines level item ++ moreItemLines level rest

/-- Further entries, each after a comma on a line of its own. -/
def moreEntryLines (level : Nat) : List (String × Json) → List Char
  | [] => []
  | (key, value) :: rest =>
      ',' :: lineBreak level ++ quote key ++ [':', ' '] ++ lines level value ++
        moreEntryLines level rest

end

/-- The text of a value over several lines. -/
def prettyText (value : Json) : String :=
  String.ofList (value.lines 0)

end Json
end LooseRecords
