import LooseRecords.Text.Blank
import LooseRecords.Text.Lowercase

/-!
# Tokens

Texts that are compared without regard to case and to the blanks around them: the words for truth
values, and the values of categories.
-/

namespace LooseRecords
namespace Token

/-- The form in which values of a category are compared. -/
def normalize (s : String) : String :=
  Text.lowercase (Text.trim s)

/-- The text in the form in which words of ASCII letters are compared. -/
def asciiWord (s : String) : String :=
  Text.asciiLowercase (Text.trim s)

/-- A truth value by name: `true` or `false`. -/
def boolLiteral? (s : String) : Option Bool :=
  let word := asciiWord s
  if word = "true" then some true else if word = "false" then some false else none

/-- A truth value by name or by digit: `true`, `false`, `1` or `0`. -/
def bool? (s : String) : Option Bool :=
  let word := asciiWord s
  if word = "true" ∨ word = "1" then some true
  else if word = "false" ∨ word = "0" then some false
  else none

end Token
end LooseRecords
