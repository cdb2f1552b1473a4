/-!
# Binary floating-point numbers of 64 bits

A finite number is a sign and a whole number of *units*, a unit being the smallest positive number
`2 ^ (-1074)`. Comparing, truncating and rounding are then operations on whole numbers. What makes a
number of units representable is that at most 53 significant bits are needed and that it stays below
`2 ^ 1024`, so that its highest bit is worth less than `2 ^ 2098` units.

The one operation that rounds is `Binary64.ofRatio`; it rounds to the nearest number and breaks ties
toward an even significand. `Representable.of_rounded` says that what it makes is representable.
-/

namespace LooseRecords

/-- A number of units that a binary floating-point number of 64 bits can have. -/
structure Representable (units : Nat) : Prop where
  log2_lt : units.log2 < 2098
  ulp_dvd : Nat.pow 2 (units.log2 - 52) ∣ units

instance (units : Nat) : Decidable (Representable units) :=
  decidable_of_iff (units.log2 < 2098 ∧ Nat.pow 2 (units.log2 - 52) ∣ units)
    ⟨fun h => ⟨h.1, h.2⟩, fun h => ⟨h.1, h.2⟩⟩

/-- A finite binary floating-point number. Zero has both signs. -/
structure Finite64 where
  negative : Bool
  units : Nat
  representable : Representable units
  deriving DecidableEq, Repr

/-- A binary floating-point number of 64 bits: finite, infinite, or no number at all. -/
inductive Binary64 where
  | finite (x : Finite64)
  | infinite (negative : Bool)
  | nan
  deriving DecidableEq, Repr

/-- The quotient rounded to the nearest whole number, a tie to the even one. -/
def divNearest (num den : Nat) : Nat :=
  let quotient := num / den
  let remainder := num % den
  if 2 * remainder < den then quotient
  else if den < 2 * remainder then quotient + 1
  else quotient + quotient % 2

/-- The exponent of the last of the 53 significant bits of a number of units. -/
def ulpExponent (units : Nat) : Nat :=
  units.log2 - 52

/-- The ratio of two numbers of units, rounded to 53 significant bits. -/
def roundUnits (num den : Nat) : Nat :=
  let e := ulpExponent (num / den)
  divNearest num (den * Nat.pow 2 e) * Nat.pow 2 e

theorem divNearest_le (num den : Nat) : divNearest num den ≤ num / den + 1 := by
  unfold divNearest
  dsimp only
  have : num / den % 2 < 2 := Nat.mod_lt _ (by decide)
  split
  · omega
  · split <;> omega

theorem ulp_dvd_shift {k e : Nat} (h : k ≤ Nat.pow 2 53) :
    Nat.pow 2 ((k * Nat.pow 2 e).log2 - 52) ∣ k * Nat.pow 2 e := by
  simp only [Nat.pow_eq] at h ⊢
  by_cases zero : k = 0
  · simp [zero]
  · by_cases full : k = 2 ^ 53
    · subst full
      rw [← Nat.pow_add, Nat.log2_two_pow]
      exact Nat.pow_dvd_pow 2 (by omega)
    · have lt : k * 2 ^ e < 2 ^ (53 + e) := by
        rw [Nat.pow_add]
        exact Nat.mul_lt_mul_of_pos_right (by omega) (Nat.two_pow_pos e)
      have ne : k * 2 ^ e ≠ 0 := Nat.mul_ne_zero zero (Nat.pos_iff_ne_zero.1 (Nat.two_pow_pos e))
      have := (Nat.log2_lt ne).2 lt
      exact Nat.dvd_trans (Nat.pow_dvd_pow 2 (by omega)) (Nat.dvd_mul_left _ _)

/-- Rounding leaves at most 53 significant bits. -/
theorem ulp_dvd_roundUnits (num den : Nat) :
    Nat.pow 2 ((roundUnits num den).log2 - 52) ∣ roundUnits num den := by
  unfold roundUnits
  apply ulp_dvd_shift
  refine Nat.le_trans (divNearest_le _ _) ?_
  simp only [Nat.pow_eq]
  rw [← Nat.div_div_eq_div_mul]
  have small : num / den < 2 ^ ulpExponent (num / den) * 2 ^ 53 := by
    rw [← Nat.pow_add]
    refine Nat.lt_of_lt_of_le Nat.lt_log2_self (Nat.pow_le_pow_right (by decide) ?_)
    unfold ulpExponent
    omega
  have := Nat.div_lt_of_lt_mul small
  omega

theorem Representable.of_rounded {num den : Nat} (h : (roundUnits num den).log2 < 2098) :
    Representable (roundUnits num den) :=
  ⟨h, ulp_dvd_roundUnits num den⟩

/-- A whole number that a signed word of 64 bits holds. -/
structure Word where
  val : Int
  lower : -9223372036854775808 ≤ val
  upper : val < 9223372036854775808
  deriving DecidableEq, Repr

/-- The word of a whole number, if there is one. -/
def Word.ofInt? (n : Int) : Option Word :=
  if h : -9223372036854775808 ≤ n ∧ n < 9223372036854775808 then some ⟨n, h.1, h.2⟩ else none

namespace Finite64

/-- The number of units in one. -/
def unitsOfOne : Nat := Nat.pow 2 1074

/-- Zero of either sign. -/
def zero (negative : Bool) : Finite64 :=
  ⟨negative, 0, ⟨by decide, by simp⟩⟩

/-- The value in units. The two zeros have the same. -/
def signedUnits (x : Finite64) : Int :=
  if x.negative then -(x.units : Int) else x.units

/-- Whether the number is whole. -/
def IsWhole (x : Finite64) : Prop :=
  unitsOfOne ∣ x.units

instance (x : Finite64) : Decidable x.IsWhole :=
  inferInstanceAs (Decidable (unitsOfOne ∣ x.units))

/-- The whole part: the fraction is dropped, toward zero. -/
def truncate (x : Finite64) : Int :=
  if x.negative then -((x.units / unitsOfOne : Nat) : Int) else (x.units / unitsOfOne : Nat)

end Finite64

namespace Binary64

/-- The number nearest to the ratio of two numbers of units, infinite where it is too large. -/
def ofRatio (negative : Bool) (num den : Nat) : Binary64 :=
  if h : (roundUnits num den).log2 < 2098 then
    finite ⟨negative, roundUnits num den, .of_rounded h⟩
  else infinite negative

/-- The number nearest to a whole number. -/
def ofInt (n : Int) : Binary64 :=
  ofRatio (n < 0) (n.natAbs * Finite64.unitsOfOne) 1

/-- The number, if it is finite. -/
def finite? : Binary64 → Option Finite64
  | finite x => some x
  | _ => none

/-- Numeric equality: the two zeros are equal, and `nan` equals nothing. -/
def Equals : Binary64 → Binary64 → Prop
  | finite x, finite y => x.signedUnits = y.signedUnits
  | infinite a, infinite b => a = b
  | _, _ => False

/-- Numeric order; `nan` is neither above nor below anything. -/
def Less : Binary64 → Binary64 → Prop
  | finite x, finite y => x.signedUnits < y.signedUnits
  | finite _, infinite negative => negative = false
  | infinite negative, finite _ => negative = true
  | infinite a, infinite b => a = true ∧ b = false
  | _, _ => False

instance : (a b : Binary64) → Decidable (Equals a b)
  | finite x, finite y => inferInstanceAs (Decidable (x.signedUnits = y.signedUnits))
  | infinite a, infinite b => inferInstanceAs (Decidable (a = b))
  | finite _, infinite _ | finite _, nan | infinite _, finite _ | infinite _, nan
  | nan, finite _ | nan, infinite _ | nan, nan => inferInstanceAs (Decidable False)

instance : LT Binary64 := ⟨Less⟩

instance : (a b : Binary64) → Decidable (a < b)
  | finite x, finite y => inferInstanceAs (Decidable (x.signedUnits < y.signedUnits))
  | finite _, infinite negative => inferInstanceAs (Decidable (negative = false))
  | infinite negative, finite _ => inferInstanceAs (Decidable (negative = true))
  | infinite a, infinite b => inferInstanceAs (Decidable (a = true ∧ b = false))
  | finite _, nan | infinite _, nan | nan, finite _ | nan, infinite _ | nan, nan =>
      inferInstanceAs (Decidable False)

/-- The whole part of a finite number, where a word holds it. -/
def toWord? (x : Binary64) : Option Word :=
  x.finite?.bind fun x => Word.ofInt? x.truncate

end Binary64
end LooseRecords
