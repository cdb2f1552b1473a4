import LooseRecords.Number.Decimal

/-!
# Decimal numbers in floating-point steps

A decimal number can be read with a few steps of floating-point arithmetic. The digits make a whole
number, as far as a word of 64 bits holds it; this number is rounded; and it is multiplied with a
power of ten or divided by one, which is rounded as well. Each step rounds to the nearest number, but
all of them together need not, and a number that is just not too large may become too large on the
way.
-/

namespace LooseRecords

/-- The number of a run of digits behind those of `n`, as far as a word of 64 bits holds it, and how
many digits at the end are left out. -/
def Digits.fitOnto (n : Nat) : List Char → Nat × Nat
  | [] => (n, 0)
  | c :: cs =>
      let longer := 10 * n + digitValue c
      if longer < 18446744073709551616 then fitOnto longer cs else (n, cs.length + 1)

namespace Decimal

/-- The number with the given digits before and after its point, times a power of ten, where the
significand is held by a word of 64 bits. Digits before the point that are left out count as zeros. -/
def fitParts (negative : Bool) (whole fraction : List Char) (exponent : Int) : Decimal :=
  let (n, leftOut) := Digits.fitOnto 0 whole
  let (significand, unread) := Digits.fitOnto n fraction
  ⟨negative, significand, exponent + leftOut - (fraction.length - unread : Nat)⟩

/-- The largest exponent of a power of ten that is at hand. -/
def largestPower : Nat := 308

/-- The floating-point number nearest to a power of ten, in units. -/
def powerUnits (k : Nat) : Nat :=
  roundUnits (Nat.pow 10 k * Finite64.unitsOfOne) 1

/-- A number of units divided by a power of ten. A power that is not at hand is taken in several steps,
until nothing is left to divide. -/
def divideByPower (negative : Bool) (units k : Nat) : Binary64 :=
  if k ≤ largestPower then .ofRatio negative (units * Finite64.unitsOfOne) (powerUnits k)
  else if units = 0 then .finite (.zero negative)
  else
    divideByPower negative
      (roundUnits (units * Finite64.unitsOfOne) (powerUnits largestPower)) (k - largestPower)
termination_by k
decreasing_by
  unfold largestPower at *
  omega

/-- What the steps make of a decimal number. -/
def toBinary64InSteps (d : Decimal) : Binary64 :=
  let units := roundUnits (d.significand * Finite64.unitsOfOne) 1
  if d.exponent < 0 then divideByPower d.negative units d.exponent.natAbs
  else if d.exponent.natAbs ≤ largestPower then
    .ofRatio d.negative (units * powerUnits d.exponent.natAbs) Finite64.unitsOfOne
  else if units = 0 then .finite (.zero d.negative)
  else .infinite d.negative

end Decimal
end LooseRecords
