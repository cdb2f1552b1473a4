import LooseRecords.Json.Printer
import LooseRecords.Text.Blank

/-!
# Scalar values

The values of raw records. Every JSON value is reduced to one of four kinds: arrays and objects are
kept as their compact text, and every number as its nearest floating-point number.
-/

namespace LooseRecords

/-- A value of a raw record. -/
inductive Scalar where
  | null
  | bool (b : Bool)
  | number (x : Binary64)
  | text (s : String)
  deriving DecidableEq, Repr

namespace Scalar

/-- The scalar of a JSON value. -/
def ofJson : Json → Scalar
  | .null => .null
  | .bool b => .bool b
  | .number n => .number n.toBinary64
  | .string s => .text s
  | .array items => .text (Json.array items).text
  | .object entries => .text (Json.object entries).text

/-- Whether the value is null. -/
def isNull : Scalar → Bool
  | .null => true
  | _ => false

/-- Whether the value says nothing: null, or a text of blanks. -/
def isBlank : Scalar → Bool
  | .null => true
  | .text s => Text.isBlankText s
  | _ => false

/-- The text of the value; null has none. -/
def toText? : Scalar → Option String
  | .null => none
  | .bool b => some (String.ofList (Json.boolChars b))
  | .number x => some (x.toText .plain)
  | .text s => some s

/-- The number that a run of digits of the given base denotes, a plus sign before it allowed, if a
word without sign holds it. -/
def wordOfDigits? (base : Nat) (cs : List Char) : Option Nat :=
  let digits := match cs with
    | '+' :: rest => rest
    | cs => cs
  if digits = [] then none
  else (Digits.valueIn? base digits).bind fun n => if n < 18446744073709551616 then some n else none

/-- The finite number that trimmed characters denote: hexadecimal, octal and binary digits after
`0x`, `0o` and `0b`, or a decimal number. -/
def numberOfTrimmed? (cs : List Char) : Option Finite64 :=
  let wordOf (base : Nat) (digits : List Char) : Option Finite64 :=
    (wordOfDigits? base digits).bind fun n => (Binary64.ofInt n).finite?
  match cs.map Char.toLower with
  | '0' :: 'x' :: digits => wordOf 16 digits
  | '0' :: 'o' :: digits => wordOf 8 digits
  | '0' :: 'b' :: digits => wordOf 2 digits
  | _ => (Decimal.ofChars? cs).bind fun d => d.toBinary64.finite?

/-- The finite number that a text denotes, blanks around it left aside. -/
def numberOfText? (s : String) : Option Finite64 :=
  numberOfTrimmed? (Text.trimChars s.toList)

/-- The finite number that the value is or that its text denotes. -/
def toNumber? : Scalar → Option Finite64
  | .number x => x.finite?
  | .text s => numberOfText? s
  | _ => none

/-- The JSON value of a scalar; a number that is not finite becomes null. -/
def toJson : Scalar → Json
  | .null => .null
  | .bool b => .bool b
  | .number x => (Json.Number.ofBinary64? x).elim .null .number
  | .text s => .string s

end Scalar
end LooseRecords
