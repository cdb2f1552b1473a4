import LooseRecords.Number.Binary64
import LooseRecords.Text.Digits

/-!
# Decimal numbers

A decimal number is a sign, a whole number and a power of ten. Reading one as a binary
floating-point number is correct rounding of its exact value; `Decimal.toBinary64` takes care that
an exponent of any size costs no more than its outcome is worth.
-/

namespace LooseRecords

/-- The number `± significand · 10 ^ exponent`. -/
structure Decimal where
  negative : Bool
  significand : Nat
  exponent : Int
  deriving DecidableEq, Repr

namespace Decimal

/-- The number with the given digits before and after its point, times a power of ten. -/
def ofParts (negative : Bool) (whole fraction : List Char) (exponent : Int) : Decimal :=
  ⟨negative, Digits.value (whole ++ fraction), exponent - fraction.length⟩

/-- The nearest binary floating-point number. Beyond the exponents that are told apart at the outset
the exact value is far above the largest number or far below half the smallest one. -/
def toBinary64 (d : Decimal) : Binary64 :=
  if d.significand = 0 then .finite (.zero d.negative)
  else if 400 < d.exponent then .infinite d.negative
  else if 0 ≤ d.exponent then
    .ofRatio d.negative (d.significand * Nat.pow 10 d.exponent.toNat * Finite64.unitsOfOne) 1
  else if d.significand.log2 + 1100 < 3 * d.exponent.natAbs then .finite (.zero d.negative)
  else .ofRatio d.negative (d.significand * Finite64.unitsOfOne) (Nat.pow 10 d.exponent.natAbs)

/-- The sign in front of a number, plus where none stands, and what follows it. -/
def splitSign : List Char → Bool × List Char
  | '-' :: rest => (true, rest)
  | '+' :: rest => (false, rest)
  | cs => (false, cs)

/-- The exponent that may follow the digits of a number: nothing, or `e` with a signed run of digits
up to the end. -/
def exponentOfChars? : List Char → Option Int
  | [] => some 0
  | c :: rest =>
      if c = 'e' ∨ c = 'E' then
        let (negative, digits) := splitSign rest
        if digits ≠ [] ∧ digits.all Digits.isDigit = true then
          some (if negative then -(Digits.value digits : Int) else Digits.value digits)
        else none
      else none

/-- The digits after a point, if a point comes next, and what follows them. -/
def splitFraction : List Char → List Char × List Char
  | '.' :: rest => rest.span Digits.isDigit
  | cs => ([], cs)

/-- Reads a number with an optional sign, an optional point among or beside its digits, and an
optional exponent. At least one digit is needed. -/
def ofChars? (cs : List Char) : Option Decimal :=
  let (negative, unsigned) := splitSign cs
  let (whole, afterWhole) := unsigned.span Digits.isDigit
  let (fraction, afterFraction) := splitFraction afterWhole
  if whole = [] ∧ fraction = [] then none
  else (exponentOfChars? afterFraction).map (ofParts negative whole fraction)

end Decimal

/-- Reads a floating-point number: a decimal number, or one of the words `inf`, `infinity` and `nan`
in any case, with an optional sign. -/
def Binary64.ofText? (s : String) : Option Binary64 :=
  let (negative, unsigned) := Decimal.splitSign s.toList
  let word := unsigned.map Char.toLower
  if word = ['i', 'n', 'f'] ∨ word = ['i', 'n', 'f', 'i', 'n', 'i', 't', 'y'] then
    some (.infinite negative)
  else if word = ['n', 'a', 'n'] then some .nan
  else (Decimal.ofChars? s.toList).map Decimal.toBinary64

end LooseRecords
