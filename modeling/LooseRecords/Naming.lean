import LooseRecords.Text.CamelCase
import LooseRecords.Text.Digits

/-!
# Names of fields

A field is named by its display name in lower camel case. Where that name is taken, the smallest
free number from two on is appended.
-/

namespace LooseRecords
namespace Naming

/-- The name that a display name suggests. A display name without any letter or number leaves only
its position to name it by. -/
def base (display : String) (position : Nat) : String :=
  let name := Text.lowerCamelCase display
  if name = "" then "field" ++ Digits.text (position + 1) else name

/-- The name with a number appended. -/
def numbered (base : String) (k : Nat) : String :=
  base ++ Digits.text k

/-- The first free name among `base` with the numbers `k`, `k + 1` and so on, of which `fuel` are
tried. -/
def firstFree (taken : List String) (base : String) : (fuel : Nat) → (k : Nat) → String
  | 0, k => numbered base k
  | fuel + 1, k =>
      if numbered base k ∈ taken then firstFree taken base fuel (k + 1) else numbered base k

/-- The name of a field at a position, given the names that are taken. One more number than there
are names is enough to find a free one. -/
def allocate (taken : List String) (display : String) (position : Nat) : String :=
  let name := base display position
  if name ∈ taken then firstFree taken name (taken.length + 1) 2 else name

end Naming
end LooseRecords
