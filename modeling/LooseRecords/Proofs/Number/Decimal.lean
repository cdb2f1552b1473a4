import LooseRecords.Number.Decimal
import LooseRecords.Proofs.Number.Rounding
import Mathlib.Algebra.Order.Field.Power
import Mathlib.Algebra.Order.Field.Rat
import Mathlib.Data.Rat.Cast.Order
import Mathlib.Tactic.Linarith
import Mathlib.Tactic.NormNum

/-!
# Reading decimals is rounding

A decimal is read as the floating-point number that is nearest to its exact value.  The reader decides
some cases by the exponent, before it computes anything; here the two cuts are shown to agree with
rounding (`Decimal.toBinary64_eq_ofRatio`): beyond the upper one the value exceeds all finite numbers,
and beyond the lower one it is less than half a unit.

So what is read is a function of the sign and of the magnitude `significand · 10 ^ exponent`, and
not of the way in which the decimal is written (`Decimal.toBinary64_congr`); a larger magnitude is
not read as a smaller number (`Decimal.roundedUnits_mono`); and the magnitude of a floating-point
number is read as this number (`Decimal.toBinary64_of_magnitude_eq`), as is any that is near enough to
it (`Decimal.toBinary64_of_near`).
-/

namespace LooseRecords

theorem exists_unitsOfOne_eq_two_pow : ∃ u, u = 1074 ∧ Finite64.unitsOfOne = 2 ^ u :=
  ⟨1074, rfl, by decide +kernel⟩

namespace Decimal

/-- The exact value without its sign. -/
def magnitude (d : Decimal) : ℚ :=
  d.significand * 10 ^ d.exponent

/-- The exact value in units, times the denominator. -/
def numerator (d : Decimal) : Nat :=
  d.significand * 10 ^ d.exponent.toNat * Finite64.unitsOfOne

/-- What the exact value is to be multiplied with to become whole. -/
def denominator (d : Decimal) : Nat :=
  10 ^ (-d.exponent).toNat

/-- The exact value in units, rounded. -/
def roundedUnits (d : Decimal) : Nat :=
  roundUnits d.numerator d.denominator

theorem denominator_pos (d : Decimal) : 0 < d.denominator :=
  Nat.pow_pos (by decide)

/-! ### The cuts of the reader -/

theorem two_pow_le_ten_pow (k : Nat) : 2 ^ (3 * k) ≤ 10 ^ k := by
  rw [Nat.pow_mul]
  exact Nat.pow_le_pow_left (by decide) k

/-- Beyond the upper cut a decimal is too large. -/
theorem le_log2_roundedUnits {d : Decimal} (hzero : d.significand ≠ 0) (h : 400 < d.exponent) :
    2098 ≤ d.roundedUnits.log2 := by
  obtain ⟨u, hu, hone⟩ := exists_unitsOfOne_eq_two_pow
  have hnumerator : 2 ^ (3 * d.exponent.toNat + u) ≤ d.numerator := by
    rw [numerator, hone, Nat.pow_add]
    refine Nat.mul_le_mul_right _ (Nat.le_trans (two_pow_le_ten_pow _) ?_)
    exact Nat.le_mul_of_pos_left _ (Nat.pos_of_ne_zero hzero)
  have hdenominator : d.denominator = 1 := by
    rw [denominator, show (-d.exponent).toNat = 0 by omega, Nat.pow_zero]
  have hunits : 2 ^ (3 * d.exponent.toNat + u) ≤ d.roundedUnits :=
    two_pow_le_roundUnits (by rwa [hdenominator, Nat.div_one])
  have hne : d.roundedUnits ≠ 0 :=
    Nat.pos_iff_ne_zero.1 (Nat.lt_of_lt_of_le (Nat.two_pow_pos _) hunits)
  have hlog := (Nat.le_log2 hne).2 hunits
  omega

/-- Beyond the lower cut a decimal is less than half a unit. -/
theorem roundedUnits_eq_zero {d : Decimal} (hneg : d.exponent < 0)
    (h : d.significand.log2 + 1100 < 3 * d.exponent.natAbs) : d.roundedUnits = 0 := by
  obtain ⟨u, hu, hone⟩ := exists_unitsOfOne_eq_two_pow
  refine roundUnits_eq_zero ?_
  rw [numerator, denominator, show d.exponent.toNat = 0 by omega, Nat.pow_zero, Nat.mul_one, hone]
  calc 2 * (d.significand * 2 ^ u) = d.significand * 2 ^ (u + 1) := by ring
    _ < 2 ^ (d.significand.log2 + 1) * 2 ^ (u + 1) :=
        Nat.mul_lt_mul_of_pos_right Nat.lt_log2_self (Nat.two_pow_pos _)
    _ = 2 ^ (d.significand.log2 + 1 + (u + 1)) := (Nat.pow_add _ _ _).symm
    _ ≤ 2 ^ (3 * (-d.exponent).toNat) := Nat.pow_le_pow_right (by decide) (by omega)
    _ ≤ 10 ^ (-d.exponent).toNat := two_pow_le_ten_pow _

/-- Reading a decimal is rounding its exact value. -/
theorem toBinary64_eq_ofRatio (d : Decimal) :
    d.toBinary64 = .ofRatio d.negative d.numerator d.denominator := by
  have hzero (h : d.roundedUnits = 0) :
      Binary64.ofRatio d.negative d.numerator d.denominator = .finite (.zero d.negative) := by
    have hnone : roundUnits d.numerator d.denominator = 0 := h
    unfold Binary64.ofRatio Finite64.zero
    simp [hnone]
  unfold toBinary64
  split_ifs with hsignificand hlarge hnonneg hsmall
  · refine (hzero ?_).symm
    refine roundUnits_eq_zero ?_
    rw [numerator, hsignificand, Nat.zero_mul, Nat.zero_mul]
    exact d.denominator_pos
  · have hlog : ¬(roundUnits d.numerator d.denominator).log2 < 2098 :=
      Nat.not_lt.2 (le_log2_roundedUnits hsignificand hlarge)
    unfold Binary64.ofRatio
    rw [dif_neg hlog]
  · rw [numerator, denominator, show (-d.exponent).toNat = 0 by omega, Nat.pow_zero, Nat.pow_eq]
  · exact (hzero (roundedUnits_eq_zero (by omega) hsmall)).symm
  · rw [numerator, denominator, show d.exponent.toNat = 0 by omega, Nat.pow_zero, Nat.mul_one,
      show (-d.exponent).toNat = d.exponent.natAbs by omega, Nat.pow_eq]

/-- Which finite number a decimal is read as. -/
theorem toBinary64_eq_finite_iff {d : Decimal} {x : Finite64} :
    d.toBinary64 = .finite x ↔ d.negative = x.negative ∧ d.roundedUnits = x.units := by
  obtain ⟨negative, units, hrepresentable⟩ := x
  rw [toBinary64_eq_ofRatio]
  unfold Binary64.ofRatio
  constructor
  · intro h
    split at h
    · cases h
      exact ⟨rfl, rfl⟩
    · cases h
  · rintro ⟨hnegative, hunits⟩
    have hround : roundUnits d.numerator d.denominator = units := hunits
    subst hnegative
    subst hround
    exact dif_pos hrepresentable.log2_lt

/-- A decimal number with the exponent zero is the number of its digits. -/
theorem toBinary64_exponent_zero (n : Int) :
    toBinary64 ⟨decide (n < 0), n.natAbs, 0⟩ = Binary64.ofInt n := by
  by_cases hzero : n = 0
  · subst hzero
    decide +kernel
  · unfold toBinary64 Binary64.ofInt
    simp [hzero]

/-! ### Magnitudes -/

/-- The exact value in units is the quotient of two whole numbers. -/
theorem numerator_div_denominator (d : Decimal) :
    (d.numerator : ℚ) / d.denominator = d.magnitude * Finite64.unitsOfOne := by
  have hexponent : (10 : ℚ) ^ d.exponent =
      10 ^ d.exponent.toNat / 10 ^ (-d.exponent).toNat := by
    have hsplit : d.exponent = (d.exponent.toNat : Int) - (-d.exponent).toNat := by omega
    conv_lhs => rw [hsplit]
    rw [zpow_sub₀ (by norm_num), zpow_natCast, zpow_natCast]
  rw [magnitude, hexponent, numerator, denominator]
  push_cast
  ring

/-- A larger magnitude is not read as a smaller number. -/
theorem roundedUnits_mono {d d' : Decimal} (h : d.magnitude ≤ d'.magnitude) :
    d.roundedUnits ≤ d'.roundedUnits := by
  have hpos : (0 : ℚ) < d.denominator := Nat.cast_pos.2 d.denominator_pos
  have hpos' : (0 : ℚ) < d'.denominator := Nat.cast_pos.2 d'.denominator_pos
  have hratio : (d.numerator : ℚ) / d.denominator ≤ d'.numerator / d'.denominator := by
    rw [numerator_div_denominator, numerator_div_denominator]
    exact mul_le_mul_of_nonneg_right h (Nat.cast_nonneg _)
  rw [div_le_div_iff₀ hpos hpos'] at hratio
  exact roundUnits_mono d.denominator_pos d'.denominator_pos (by exact_mod_cast hratio)

/-- What is read is a function of the sign and of the magnitude. -/
theorem toBinary64_congr {d d' : Decimal} (hnegative : d.negative = d'.negative)
    (h : d.magnitude = d'.magnitude) : d.toBinary64 = d'.toBinary64 := by
  have hunits : roundUnits d.numerator d.denominator = roundUnits d'.numerator d'.denominator :=
    Nat.le_antisymm (roundedUnits_mono (le_of_eq h)) (roundedUnits_mono (le_of_eq h.symm))
  rw [toBinary64_eq_ofRatio, toBinary64_eq_ofRatio]
  unfold Binary64.ofRatio
  simp only [hnegative, hunits]

/-- The magnitude of a floating-point number is read as this number. -/
theorem toBinary64_of_magnitude_eq {d : Decimal} {x : Finite64} (hnegative : d.negative = x.negative)
    (h : d.magnitude * Finite64.unitsOfOne = x.units) : d.toBinary64 = .finite x := by
  have hpos : (d.denominator : ℚ) ≠ 0 := Nat.cast_ne_zero.2 (Nat.pos_iff_ne_zero.1 d.denominator_pos)
  have hnumerator : d.numerator = x.units * d.denominator := by
    have hratio := d.numerator_div_denominator
    rw [h, div_eq_iff hpos] at hratio
    exact_mod_cast hratio
  refine toBinary64_eq_finite_iff.2 ⟨hnegative, ?_⟩
  rw [roundedUnits, hnumerator, x.representable.roundUnits_mul d.denominator_pos]

/-- What differs from a floating-point number by less than one part in `2 ^ 54` is read as it. -/
theorem toBinary64_of_near {d : Decimal} {x : Finite64} (hnegative : d.negative = x.negative)
    (h : |d.magnitude * Finite64.unitsOfOne - x.units| * 2 ^ 54 < x.units) :
    d.toBinary64 = .finite x := by
  have hpos : (0 : ℚ) < d.denominator := Nat.cast_pos.2 d.denominator_pos
  have hnumerator : (d.numerator : ℚ) = d.magnitude * Finite64.unitsOfOne * d.denominator := by
    rw [← numerator_div_denominator, div_mul_cancel₀ _ hpos.ne']
  obtain ⟨hbelow, habove⟩ := abs_lt.1 ((lt_div_iff₀ (by norm_num)).2 h)
  have hlower : (x.units : ℚ) * d.denominator * 2 ^ 54 <
      d.numerator * 2 ^ 54 + x.units * d.denominator :=
    calc (x.units : ℚ) * d.denominator * 2 ^ 54 = x.units * 2 ^ 54 * d.denominator := by ring
      _ < (d.magnitude * Finite64.unitsOfOne * 2 ^ 54 + x.units) * d.denominator :=
          mul_lt_mul_of_pos_right (by linarith only [hbelow]) hpos
      _ = d.numerator * 2 ^ 54 + x.units * d.denominator := by rw [hnumerator]; ring
  have hupper : (d.numerator : ℚ) * 2 ^ 54 <
      x.units * d.denominator * 2 ^ 54 + x.units * d.denominator :=
    calc (d.numerator : ℚ) * 2 ^ 54 =
          d.magnitude * Finite64.unitsOfOne * 2 ^ 54 * d.denominator := by rw [hnumerator]; ring
      _ < ((x.units : ℚ) * 2 ^ 54 + x.units) * d.denominator :=
          mul_lt_mul_of_pos_right (by linarith only [habove]) hpos
      _ = (x.units : ℚ) * d.denominator * 2 ^ 54 + x.units * d.denominator := by ring
  exact toBinary64_eq_finite_iff.2 ⟨hnegative,
    x.representable.roundUnits_of_near d.denominator_pos (by exact_mod_cast hlower)
      (by exact_mod_cast hupper)⟩

end Decimal
end LooseRecords
