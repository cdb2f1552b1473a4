import LooseRecords.Entries
import LooseRecords.Number.Binary64

/-!
# JSON values

A number is kept exactly where it is a whole number in the range of 64-bit words, signed or
unsigned; every other number is a finite floating-point number. Objects keep the order of their
keys.
-/

namespace LooseRecords

/-- A whole number that a word of 64 bits holds, with or without sign. -/
structure Json.Integer where
  val : Int
  lower : -9223372036854775808 ≤ val
  upper : val < 18446744073709551616
  deriving Repr

theorem Json.Integer.val_inj {m n : Json.Integer} : m.val = n.val ↔ m = n := by
  cases m
  cases n
  simp

instance : DecidableEq Json.Integer := fun _ _ => decidable_of_iff _ Json.Integer.val_inj

/-- The whole number of a signed word. -/
def Json.Integer.ofWord (n : Word) : Json.Integer :=
  ⟨n.val, n.lower, Int.lt_trans n.upper (by decide)⟩

/-- A number of a JSON value. -/
inductive Json.Number where
  | integer (n : Json.Integer)
  | decimal (x : Finite64)
  deriving DecidableEq, Repr

/-- A JSON value. -/
inductive Json where
  | null
  | bool (b : Bool)
  | number (n : Json.Number)
  | string (s : String)
  | array (items : List Json)
  | object (entries : List (String × Json))
  deriving Repr

namespace Json

/-- The nearest floating-point number. -/
def Number.toBinary64 : Number → Binary64
  | .integer n => .ofInt n.val
  | .decimal x => .finite x

/-- The number of a floating-point value; only finite values have one. -/
def Number.ofBinary64? : Binary64 → Option Number
  | .finite x => some (.decimal x)
  | _ => none

/-- The kinds of JSON values. -/
inductive Kind where
  | null
  | boolean
  | number
  | string
  | array
  | object
  deriving DecidableEq, Repr

/-- The kind of a value. -/
def kind : Json → Kind
  | .null => .null
  | .bool _ => .boolean
  | .number _ => .number
  | .string _ => .string
  | .array _ => .array
  | .object _ => .object

/-- How messages name a kind. -/
def Kind.description : Kind → String
  | .null => "null"
  | .boolean => "a boolean"
  | .number => "a number"
  | .string => "a string"
  | .array => "an array"
  | .object => "an object"

end Json
end LooseRecords
