import LooseRecords.Number.Decimal

/-!
# Shortest decimals

The shortest decimal of a binary floating-point number has the fewest significant digits among the
decimals that read back as the number, and of those with so few digits it is the nearest to the
number.

A number of units is `units · 5 ^ 1074 · 10 ^ (-1074)`, so its exact decimal digits are those of a
whole number. On the grid of decimals with a given number of digits only the two neighbours of the
exact value have to be tried: if any point of the grid reads back, one of these does.
-/

namespace LooseRecords

/-- Which of two equally near decimals is chosen. -/
inductive Tie where
  /-- The one with the even last digit. -/
  | even
  /-- The one farther from zero. -/
  | up
  deriving DecidableEq, Repr

namespace Finite64

/-- The exact value times `10 ^ 1074`, as a whole number. -/
def exactDigits (x : Finite64) : Nat :=
  x.units * Nat.pow 5 1074

/-- The exact value as a decimal. -/
def toDecimal (x : Finite64) : Decimal :=
  ⟨x.negative, x.exactDigits, -1074⟩

/-- Whether a decimal reads back as `x`. -/
def IsReadFrom (x : Finite64) (d : Decimal) : Prop :=
  d.toBinary64 = .finite x

instance (x : Finite64) (d : Decimal) : Decidable (x.IsReadFrom d) :=
  inferInstanceAs (Decidable (d.toBinary64 = .finite x))

/-- Whether of the multiples `below * step` and `(below + 1) * step` on both sides of `exact` the
upper one is taken. -/
def prefersUpper (tie : Tie) (exact step below : Nat) : Bool :=
  let under := exact - below * step
  let above := (below + 1) * step - exact
  if above < under then true
  else if under < above then false
  else match tie with
    | .even => below % 2 = 1
    | .up => true

/-- The nearest decimal that reads back as `x` without the last `dropped` digits of the exact value,
if one does. -/
def candidate? (tie : Tie) (x : Finite64) (dropped : Nat) : Option Decimal :=
  let exact := x.exactDigits
  let step := Nat.pow 10 dropped
  let below := exact / step
  let lower : Decimal := ⟨x.negative, below, (dropped : Int) - 1074⟩
  let upper : Decimal := ⟨x.negative, below + 1, (dropped : Int) - 1074⟩
  if x.IsReadFrom lower then
    if x.IsReadFrom upper ∧ prefersUpper tie exact step below = true then some upper
    else some lower
  else if x.IsReadFrom upper then some upper
  else none

/-- The shortest decimal of a number; 17 digits always suffice. -/
def shortest (tie : Tie) (x : Finite64) : Decimal :=
  let length := (Digits.decimal x.exactDigits).length
  ((List.range 17).findSome? fun i => candidate? tie x (length - (i + 1))).getD x.toDecimal

end Finite64
end LooseRecords
