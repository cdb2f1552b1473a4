import LooseRecords.Json.Printer
import LooseRecords.Text.Quoted

/-!
# Values in messages

How a message names a value that stands where a value of another shape is due: by its kind, and with
its text where it is a truth value, a number or a string.
-/

namespace LooseRecords
namespace Json

/-- What a message says is found. -/
def Number.found : Number → String
  | .integer n => "integer \x60" ++ Digits.signedText n.val ++ "\x60"
  | .decimal x => "floating point \x60" ++ String.ofList (Layout.json.write x) ++ "\x60"

/-- What a message says is found. -/
def found : Json → String
  | .null => "null"
  | .bool b => "boolean \x60" ++ String.ofList (boolChars b) ++ "\x60"
  | .number n => n.found
  | .string s => "string " ++ Text.Quotation.text.quote s
  | .array _ => "sequence"
  | .object _ => "map"

end Json
end LooseRecords
