import LooseRecords.Number.Scaled
import LooseRecords.Proofs.Number.Decimal
import LooseRecords.Proofs.Text.Digits

/-!
# Decimals read in floating-point steps

The steps need not lead to the nearest number.  They do where nothing is rounded before the last one:
where the significand has at most 53 bits and the power of ten is at most the twenty-second
(`Decimal.toBinary64InSteps_eq`).

Nor does every decimal that is not too large pass.  What is asked here is when the steps end at a finite
number.  Dividing by a power of ten never leads to a larger number, so nothing is too large there.  In
the other direction the product grows with the significand and with the power; of what the word can hold
all passes up to the power 288 (`Decimal.exists_toBinary64InSteps_of_exponent_le`), and with seventeen
digits all passes that does not exceed the shortest decimal of the largest number
(`Decimal.exists_toBinary64InSteps_of_magnitude_le`).
-/

namespace LooseRecords

/-! ### Digits in a word -/

namespace Digits

theorem le_foldl_digitValue (n : Nat) (cs : List Char) :
    n ≤ cs.foldl (fun n c => 10 * n + digitValue c) n := by
  induction cs generalizing n with
  | nil => exact Nat.le_refl n
  | cons c cs ih => exact Nat.le_trans (by omega) (ih (10 * n + digitValue c))

theorem fst_fitOnto_lt {n : Nat} (h : n < 2 ^ 64) (cs : List Char) : (fitOnto n cs).1 < 2 ^ 64 := by
  induction cs generalizing n with
  | nil => exact h
  | cons c cs ih =>
    rw [fitOnto]
    split
    · next hlonger => exact ih hlonger
    · exact h

theorem snd_fitOnto_le (n : Nat) (cs : List Char) : (fitOnto n cs).2 ≤ cs.length := by
  induction cs generalizing n with
  | nil => exact Nat.le_refl 0
  | cons c cs ih =>
    rw [fitOnto]
    split
    · exact Nat.le_succ_of_le (ih _)
    · exact Nat.le_refl _

/-- No digit is left out where the word holds them all. -/
theorem fitOnto_eq {n : Nat} {cs : List Char}
    (h : cs.foldl (fun n c => 10 * n + digitValue c) n < 2 ^ 64) :
    fitOnto n cs = (cs.foldl (fun n c => 10 * n + digitValue c) n, 0) := by
  induction cs generalizing n with
  | nil => rfl
  | cons c cs ih =>
    have hlonger : 10 * n + digitValue c < 2 ^ 64 := Nat.lt_of_le_of_lt (le_foldl_digitValue _ cs) h
    rw [fitOnto]
    exact (if_pos hlonger).trans (ih h)

end Digits

namespace Decimal

section Fitting

variable (negative : Bool) (whole fraction : List Char) (exponent : Int)

theorem significand_fitParts_lt :
    (fitParts negative whole fraction exponent).significand < 2 ^ 64 :=
  Digits.fst_fitOnto_lt (Digits.fst_fitOnto_lt (by decide) whole) fraction

/-- Only digits before the point that are left out add to the exponent. -/
theorem exponent_fitParts_le :
    (fitParts negative whole fraction exponent).exponent ≤ exponent + whole.length := by
  have hwhole := Digits.snd_fitOnto_le 0 whole
  unfold fitParts
  dsimp only
  omega

variable {whole fraction}

/-- A number whose digits all fit the word is not changed. -/
theorem fitParts_eq_ofParts (h : Digits.value (whole ++ fraction) < 2 ^ 64) :
    fitParts negative whole fraction exponent = ofParts negative whole fraction exponent := by
  have hvalue : Digits.value (whole ++ fraction) =
      fraction.foldl (fun n c => 10 * n + Digits.digitValue c) (Digits.value whole) :=
    List.foldl_append
  have hall : Digits.fitOnto (Digits.value whole) fraction = (Digits.value (whole ++ fraction), 0) := by
    rw [hvalue] at h ⊢
    exact Digits.fitOnto_eq h
  have hbefore : Digits.fitOnto 0 whole = (Digits.value whole, 0) := by
    refine Digits.fitOnto_eq (Nat.lt_of_le_of_lt ?_ h)
    rw [hvalue]
    exact Digits.le_foldl_digitValue _ fraction
  unfold fitParts ofParts
  rw [hbefore]
  dsimp only
  rw [hall]
  simp

end Fitting

/-! ### Powers of ten -/

theorem powerUnits_eq (k : Nat) : powerUnits k = nearestNat (10 ^ k) * Finite64.unitsOfOne :=
  roundUnits_whole (10 ^ k)

theorem powerUnits_mono {k k' : Nat} (h : k ≤ k') : powerUnits k ≤ powerUnits k' := by
  refine roundUnits_mono (by decide) (by decide) ?_
  rw [Nat.mul_one, Nat.mul_one]
  exact Nat.mul_le_mul_right _ (Nat.pow_le_pow_right (by decide) h)

theorem unitsOfOne_le_powerUnits (k : Nat) : Finite64.unitsOfOne ≤ powerUnits k := by
  have hone : powerUnits 0 = Finite64.unitsOfOne := by
    rw [powerUnits_eq, nearestNat_eq_self_iff.2 (wholeStep_dvd_of_le (by decide)), Nat.pow_zero,
      Nat.one_mul]
  rw [← hone]
  exact powerUnits_mono (Nat.zero_le k)

theorem powerUnits_pos (k : Nat) : 0 < powerUnits k :=
  Nat.lt_of_lt_of_le unitsOfOne_pos (unitsOfOne_le_powerUnits k)

/-- The powers of ten up to the twenty-second need no rounding. -/
theorem powerUnits_eq_of_le {k : Nat} (h : k ≤ 22) : powerUnits k = 10 ^ k * Finite64.unitsOfOne := by
  have hexact : ∀ k < 23, nearestNat (10 ^ k) = 10 ^ k := by decide
  rw [powerUnits_eq, hexact k (by omega)]

/-! ### Exact steps -/

/-- Where neither the significand nor the power of ten is rounded, the steps lead to the nearest
number. -/
theorem toBinary64InSteps_eq {d : Decimal} (hsignificand : d.significand ≤ 2 ^ 53)
    (hexponent : d.exponent.natAbs ≤ 22) : d.toBinary64InSteps = d.toBinary64 := by
  have hpower := powerUnits_eq_of_le hexponent
  have hunits : roundUnits (d.significand * Finite64.unitsOfOne) 1 =
      d.significand * Finite64.unitsOfOne := by
    rw [roundUnits_whole, nearestNat_eq_self_iff.2 (wholeStep_dvd_of_le hsignificand)]
  have hknown : d.exponent.natAbs ≤ largestPower := Nat.le_trans hexponent (by decide)
  rw [toBinary64_eq_ofRatio, toBinary64InSteps, hunits, hpower]
  split
  · next hneg =>
    rw [divideByPower, if_pos hknown, hpower, numerator, denominator,
      show d.exponent.toNat = 0 by omega, show (-d.exponent).toNat = d.exponent.natAbs by omega]
    refine Binary64.ofRatio_congr _ (Nat.mul_pos (Nat.pow_pos (by decide)) unitsOfOne_pos)
      (Nat.pow_pos (by decide)) ?_
    ring
  · next hnonneg =>
    rw [numerator, denominator, show (-d.exponent).toNat = 0 by omega,
      show d.exponent.natAbs = d.exponent.toNat by omega]
    refine Binary64.ofRatio_congr _ unitsOfOne_pos (Nat.pow_pos (by decide)) ?_
    ring

/-- The twenty-third power is rounded, and so is the quotient. -/
example : (⟨false, 1, -23⟩ : Decimal).toBinary64InSteps ≠ (⟨false, 1, -23⟩ : Decimal).toBinary64 := by
  decide +kernel

/-! ### What is not too large -/

/-- Dividing by a power of ten does not lead to a larger number. -/
theorem roundUnits_div_powerUnits_le {units : Nat} (h : Representable units) (k : Nat) :
    roundUnits (units * Finite64.unitsOfOne) (powerUnits k) ≤ units := by
  calc roundUnits (units * Finite64.unitsOfOne) (powerUnits k)
      ≤ roundUnits (units * Finite64.unitsOfOne) Finite64.unitsOfOne :=
        roundUnits_mono (powerUnits_pos k) unitsOfOne_pos
          (Nat.mul_le_mul_left _ (unitsOfOne_le_powerUnits k))
    _ = units := h.roundUnits_mul unitsOfOne_pos

theorem exists_divideByPower (negative : Bool) {units : Nat} (h : Representable units) (k : Nat) :
    ∃ x, divideByPower negative units k = .finite x := by
  induction k using Nat.strongRecOn generalizing units with
  | ind k ih =>
    have hlog (power : Nat) :
        (roundUnits (units * Finite64.unitsOfOne) (powerUnits power)).log2 < 2098 :=
      log2_lt_of_le (roundUnits_div_powerUnits_le h power) h.log2_lt
    rw [divideByPower]
    split_ifs with hknown hzero
    · exact Binary64.exists_ofRatio (hlog k)
    · exact ⟨_, rfl⟩
    · exact ih (k - largestPower) (by unfold largestPower at *; omega)
        (.of_rounded (hlog largestPower))

/-- The units of a significand multiplied with a power of ten. -/
def productUnits (significand k : Nat) : Nat :=
  roundUnits (roundUnits (significand * Finite64.unitsOfOne) 1 * powerUnits k) Finite64.unitsOfOne

theorem productUnits_mono {significand significand' k k' : Nat} (h : significand ≤ significand')
    (hk : k ≤ k') : productUnits significand k ≤ productUnits significand' k' := by
  refine roundUnits_mono unitsOfOne_pos unitsOfOne_pos (Nat.mul_le_mul_right _ ?_)
  refine Nat.mul_le_mul (roundUnits_mono (by decide) (by decide) ?_) (powerUnits_mono hk)
  rw [Nat.mul_one, Nat.mul_one]
  exact Nat.mul_le_mul_right _ h

/-- A significand that a word holds is not too large if its product with the power of ten is not. -/
theorem exists_toBinary64InSteps {d : Decimal} (hsignificand : d.significand < 2 ^ 64)
    (h : 0 ≤ d.exponent → d.exponent.natAbs ≤ largestPower ∧
      (productUnits d.significand d.exponent.natAbs).log2 < 2098) :
    ∃ x, d.toBinary64InSteps = .finite x := by
  unfold toBinary64InSteps
  dsimp only
  split_ifs with hneg hknown hzero
  · refine exists_divideByPower _ (.of_rounded ?_) _
    rw [roundUnits_whole]
    exact log2_mul_unitsOfOne_lt (nearestNat_le_two_pow (Nat.le_of_lt hsignificand))
  · exact Binary64.exists_ofRatio (h (Int.not_lt.1 hneg)).2
  · exact ⟨_, rfl⟩
  · exact absurd (h (Int.not_lt.1 hneg)).1 hknown

/-- Up to a certain power of ten no significand that a word holds is too large. -/
theorem exists_toBinary64InSteps_of_exponent_le {d : Decimal} (hsignificand : d.significand < 2 ^ 64)
    (hexponent : d.exponent ≤ 288) : ∃ x, d.toBinary64InSteps = .finite x := by
  have hmost : (productUnits (2 ^ 64) 288).log2 < 2098 := by decide +kernel
  refine exists_toBinary64InSteps hsignificand fun hnonneg => ⟨?_, ?_⟩
  · unfold largestPower
    omega
  · exact log2_lt_of_le (productUnits_mono (Nat.le_of_lt hsignificand) (by omega)) hmost

/-- A decimal of seventeen digits that does not exceed the shortest decimal of the largest number is not
too large. -/
theorem exists_toBinary64InSteps_of_magnitude_le {d : Decimal} (hzero : d.significand ≠ 0)
    (hsignificand : d.significand ≤ 10 ^ 17)
    (hmagnitude : d.magnitude ≤ (⟨d.negative, 17976931348623157, 292⟩ : Decimal).magnitude) :
    ∃ x, d.toBinary64InSteps = .finite x := by
  -- With a power that leaves room for seventeen digits, and with each that leaves room for fewer.
  obtain ⟨m, hm, hroom, hless⟩ : ∃ m : Nat, m = 292 ∧ (productUnits (10 ^ 17) m.pred).log2 < 2098 ∧
      ∀ j < 17, (productUnits (17976931348623157 / 10 ^ j) (m + j)).log2 < 2098 :=
    ⟨292, rfl, by decide +kernel, by decide +kernel⟩
  refine exists_toBinary64InSteps (Nat.lt_of_le_of_lt hsignificand (by decide)) fun hnonneg => ?_
  obtain ⟨k, hk⟩ := Int.eq_ofNat_of_zero_le hnonneg
  rw [hk, Int.natAbs_natCast]
  rcases Nat.lt_or_ge k m with hlt | hge
  · refine ⟨?_, log2_lt_of_le (productUnits_mono hsignificand (Nat.le_pred_of_lt hlt)) hroom⟩
    unfold largestPower
    omega
  · obtain ⟨j, rfl⟩ := Nat.exists_eq_add_of_le hge
    have hexponent : ((292 : Int)) = (m : Nat) := by omega
    have hle : d.significand * 10 ^ j ≤ 17976931348623157 := by
      rw [magnitude, magnitude, hexponent, hk, zpow_natCast, zpow_natCast, pow_add,
        ← mul_assoc, mul_right_comm] at hmagnitude
      exact_mod_cast le_of_mul_le_mul_right hmagnitude (by positivity)
    have hpower : 10 ^ j < 10 ^ 17 :=
      calc 10 ^ j ≤ d.significand * 10 ^ j := Nat.le_mul_of_pos_left _ (Nat.pos_of_ne_zero hzero)
        _ ≤ 17976931348623157 := hle
        _ < 10 ^ 17 := by decide
    have hlt : j < 17 := (Nat.pow_lt_pow_iff_right (by decide)).1 hpower
    have hfits : d.significand ≤ 17976931348623157 / 10 ^ j :=
      (Nat.le_div_iff_mul_le (Nat.pow_pos (by decide))).2 hle
    refine ⟨?_, log2_lt_of_le (productUnits_mono hfits (Nat.le_refl _)) (hless j hlt)⟩
    unfold largestPower
    omega

/-- Nineteen digits of the same magnitude are too large, as they are rounded up before the product is. -/
example : (⟨false, 1797693134862315700, 290⟩ : Decimal).toBinary64InSteps = .infinite false := by
  decide +kernel

end Decimal
end LooseRecords
