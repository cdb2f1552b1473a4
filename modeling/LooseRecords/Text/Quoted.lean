import LooseRecords.Text.Digits
import LooseRecords.Text.Visible

/-!
# Quoted texts

Messages show a text between double quotes, with an escape in place of every character that would
not be seen as it is. The name of a file escapes the apostrophe as well.
-/

namespace LooseRecords
namespace Text

/-- The choices of a kind of quotation. -/
structure Quotation where
  /-- Whether an apostrophe is escaped. -/
  apostrophe : Bool

/-- Texts that are quoted within messages. -/
def Quotation.text : Quotation := ⟨false⟩

/-- Names of files. -/
def Quotation.fileName : Quotation := ⟨true⟩

/-- The code point of `c` in hexadecimal digits between braces. -/
def codePointEscape (c : Char) : List Char :=
  ['\\', 'u', '{'] ++ Digits.hexadecimal c.toNat ++ ['}']

/-- How a quotation writes one character. -/
def Quotation.escape (q : Quotation) (c : Char) : List Char :=
  if c = '\x00' then ['\\', '0']
  else if c = '\t' then ['\\', 't']
  else if c = '\r' then ['\\', 'r']
  else if c = '\n' then ['\\', 'n']
  else if c = '\\' ∨ c = '"' ∨ (c = '\'' ∧ q.apostrophe = true) then ['\\', c]
  else if extendsGrapheme c || !isPrintable c then codePointEscape c
  else [c]

/-- The text between double quotes. -/
def Quotation.quote (q : Quotation) (s : String) : String :=
  String.ofList ('"' :: s.toList.flatMap q.escape ++ ['"'])

/-- Quoted texts between brackets, separated by commas. -/
def quoteList (texts : List String) : String :=
  "[" ++ String.intercalate ", " (texts.map Quotation.text.quote) ++ "]"

end Text
end LooseRecords
