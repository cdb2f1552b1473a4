import LooseRecords.Number.Binary64
import Mathlib.Algebra.Group.Nat.Defs

/-!
# Whole numbers as floating-point numbers

A whole number becomes the floating-point number nearest to it.  Below `2 ^ 64` this number is again
whole and finite, so the conversion is a rounding of whole numbers, `nearestInt`: all but the first
53 significant bits are rounded away, a tie goes to the even neighbour.

`ofInt_eq_finite` says that `Binary64.ofInt` is this rounding, measured in units.  Truncating the
floating-point number gives the rounded number back, and comparing two of them compares the rounded
numbers.  Of the whole numbers that need at most 53 significant bits the rounded one is the nearest
(`nearestInt_nearest`), so these numbers, and no others, are kept as they are
(`nearestInt_eq_self_iff`); among them are all up to `2 ^ 53`.
-/

namespace LooseRecords

/-! ### Rounding a quotient -/

/-- A quotient that is a whole number is not rounded. -/
theorem divNearest_mul_self (q : Nat) {den : Nat} (hden : 0 < den) :
    divNearest (q * den) den = q := by
  unfold divNearest
  simp [Nat.mul_div_cancel q hden, hden]

/-- Rounding a quotient depends on the ratio alone. -/
theorem divNearest_mul_right (num den : Nat) {c : Nat} (hc : 0 < c) :
    divNearest (num * c) (den * c) = divNearest num den := by
  have hbelow : 2 * (num % den * c) < den * c ↔ 2 * (num % den) < den := by
    rw [← Nat.mul_assoc]
    exact Nat.mul_lt_mul_right hc
  have habove : den * c < 2 * (num % den * c) ↔ den < 2 * (num % den) := by
    rw [← Nat.mul_assoc]
    exact Nat.mul_lt_mul_right hc
  unfold divNearest
  simp only [Nat.mul_div_mul_right num den hc, Nat.mul_mod_mul_right, hbelow, habove]

/-- A rounded quotient is off by half at most. -/
theorem divNearest_spec (num : Nat) {den : Nat} (hden : 0 < den) :
    2 * num ≤ 2 * (divNearest num den * den) + den ∧
      2 * (divNearest num den * den) ≤ 2 * num + den := by
  have hsum : num / den * den + num % den = num := Nat.div_add_mod' num den
  have hremainder : num % den < den := Nat.mod_lt num hden
  unfold divNearest
  dsimp only
  split
  · omega
  · split
    · rw [Nat.add_mul, Nat.one_mul]
      omega
    · have hbit : num / den % 2 * den = 0 ∨ num / den % 2 * den = den := by
        rcases Nat.mod_two_eq_zero_or_one (num / den) with h | h
        · rw [h, Nat.zero_mul]
          exact .inl rfl
        · rw [h, Nat.one_mul]
          exact .inr rfl
      rw [Nat.add_mul]
      omega

/-- No multiple of the denominator is nearer to the numerator than the rounded quotient. -/
theorem divNearest_nearest {num den m : Nat} (hden : 0 < den) (hm : den ∣ m) :
    ((num : Int) - (divNearest num den * den : Nat)).natAbs ≤ ((num : Int) - m).natAbs := by
  obtain ⟨habove, hbelow⟩ := divNearest_spec num hden
  obtain ⟨k, rfl⟩ := hm
  rw [Nat.mul_comm den k]
  -- Two different multiples are at least one denominator apart.
  rcases Nat.lt_trichotomy k (divNearest num den) with hlt | rfl | hlt
  · have hstep := Nat.mul_le_mul_right den (Nat.succ_le_of_lt hlt)
    rw [Nat.succ_mul] at hstep
    omega
  · exact Nat.le_refl _
  · have hstep := Nat.mul_le_mul_right den (Nat.succ_le_of_lt hlt)
    rw [Nat.succ_mul] at hstep
    omega

/-! ### Rounding a whole number -/

/-- The step of the whole numbers that have 53 significant bits and the size of `n`. -/
def wholeStep (n : Nat) : Nat :=
  2 ^ (n.log2 - 52)

/-- The whole number nearest to `n` that needs at most 53 significant bits, a tie to the one with
the even last bit. -/
def nearestNat (n : Nat) : Nat :=
  divNearest n (wholeStep n) * wholeStep n

/-- The whole number nearest to `n` that needs at most 53 significant bits. -/
def nearestInt (n : Int) : Int :=
  if n < 0 then -(nearestNat n.natAbs : Int) else nearestNat n.natAbs

/-- Whether a whole number needs at most 53 significant bits. -/
def FitsSignificand (n : Int) : Prop :=
  wholeStep n.natAbs ∣ n.natAbs

instance (n : Int) : Decidable (FitsSignificand n) :=
  inferInstanceAs (Decidable (wholeStep n.natAbs ∣ n.natAbs))

theorem wholeStep_pos (n : Nat) : 0 < wholeStep n :=
  Nat.two_pow_pos _

/-- There are fewer than `2 ^ 53` steps below a number. -/
theorem div_wholeStep_lt (n : Nat) : n / wholeStep n < 2 ^ 53 := by
  refine Nat.div_lt_of_lt_mul ?_
  rw [wholeStep, ← Nat.pow_add]
  exact Nat.lt_of_lt_of_le Nat.lt_log2_self (Nat.pow_le_pow_right (by decide) (by omega))

/-- A rounded number is a multiple of its own step. -/
theorem wholeStep_nearestNat_dvd (n : Nat) : wholeStep (nearestNat n) ∣ nearestNat n := by
  have hquotient : divNearest n (wholeStep n) ≤ 2 ^ 53 := by
    have := divNearest_le n (wholeStep n)
    have := div_wholeStep_lt n
    omega
  exact ulp_dvd_shift hquotient

/-- The numbers that rounding keeps are the multiples of their step. -/
theorem nearestNat_eq_self_iff {n : Nat} : nearestNat n = n ↔ wholeStep n ∣ n := by
  constructor
  · intro h
    exact ⟨divNearest n (wholeStep n), by rw [Nat.mul_comm]; exact h.symm⟩
  · rintro ⟨q, hq⟩
    unfold nearestNat
    generalize wholeStep n = step at hq ⊢
    by_cases hstep : step = 0
    · simp [hq, hstep]
    · rw [hq, Nat.mul_comm step q, divNearest_mul_self q (Nat.pos_of_ne_zero hstep)]

/-- No number of at most 53 significant bits is nearer than the rounded one. -/
theorem nearestNat_nearest {n m : Nat} (hm : wholeStep m ∣ m) :
    ((n : Int) - nearestNat n).natAbs ≤ ((n : Int) - m).natAbs := by
  rcases Nat.lt_or_ge m.log2 n.log2 with hsmaller | hlarger
  · -- The smallest number of the size of `n` lies between `m` and `n`.
    have hpower : wholeStep n ∣ 2 ^ n.log2 := Nat.pow_dvd_pow 2 (Nat.sub_le _ _)
    have hnearest : ((n : Int) - (nearestNat n : Nat)).natAbs ≤
        ((n : Int) - (2 ^ n.log2 : Nat)).natAbs := divNearest_nearest (wholeStep_pos n) hpower
    have hne : n ≠ 0 := by
      rintro rfl
      exact absurd hsmaller (Nat.not_lt_zero _)
    have hle : 2 ^ n.log2 ≤ n := Nat.log2_self_le hne
    have hlt : m < 2 ^ n.log2 :=
      Nat.lt_of_lt_of_le Nat.lt_log2_self (Nat.pow_le_pow_right (by decide) hsmaller)
    omega
  · have hstep : wholeStep n ∣ wholeStep m :=
      Nat.pow_dvd_pow 2 (Nat.sub_le_sub_right hlarger 52)
    exact divNearest_nearest (wholeStep_pos n) (Nat.dvd_trans hstep hm)

/-- A number of at most 53 bits has step one. -/
theorem wholeStep_eq_one {n : Nat} (h : n < 2 ^ 53) : wholeStep n = 1 := by
  by_cases hzero : n = 0
  · simp [hzero, wholeStep]
  · have := (Nat.log2_lt hzero).2 h
    rw [wholeStep, show n.log2 - 52 = 0 by omega, Nat.pow_zero]

/-- The numbers up to `2 ^ 53` are kept. -/
theorem wholeStep_dvd_of_le {n : Nat} (h : n ≤ 2 ^ 53) : wholeStep n ∣ n := by
  rcases Nat.lt_or_eq_of_le h with hlt | rfl
  · rw [wholeStep_eq_one hlt]
    exact Nat.one_dvd n
  · rw [wholeStep, Nat.log2_two_pow]
    exact Nat.pow_dvd_pow 2 (by decide)

/-- Rounding does not lead beyond a power of two. -/
theorem nearestNat_le_two_pow {n k : Nat} (h : n ≤ 2 ^ k) : nearestNat n ≤ 2 ^ k := by
  rcases Nat.lt_or_eq_of_le h with hlt | rfl
  · by_cases hzero : n = 0
    · simp [hzero, nearestNat, divNearest]
    · have hlog : n.log2 < k := (Nat.log2_lt hzero).2 hlt
      have hsplit : 2 ^ k = 2 ^ (k - (n.log2 - 52)) * wholeStep n := by
        rw [wholeStep, ← Nat.pow_add]
        congr 1
        omega
      have hquotient : n / wholeStep n < 2 ^ (k - (n.log2 - 52)) :=
        Nat.div_lt_of_lt_mul (by rw [Nat.mul_comm, ← hsplit]; exact hlt)
      rw [hsplit]
      exact Nat.mul_le_mul_right _ (Nat.le_trans (divNearest_le _ _) hquotient)
  · have hdvd : wholeStep (2 ^ k) ∣ 2 ^ k := by
      rw [wholeStep, Nat.log2_two_pow]
      exact Nat.pow_dvd_pow 2 (Nat.sub_le k 52)
    exact Nat.le_of_eq (nearestNat_eq_self_iff.2 hdvd)

/-! ### Rounding in units -/

theorem log2_mul_two_pow {n : Nat} (hn : n ≠ 0) (k : Nat) :
    (n * 2 ^ k).log2 = n.log2 + k := by
  have hne : n * 2 ^ k ≠ 0 := Nat.mul_ne_zero hn (Nat.pos_iff_ne_zero.1 (Nat.two_pow_pos k))
  rw [Nat.log2_eq_iff hne]
  constructor
  · rw [Nat.pow_add]
    exact Nat.mul_le_mul_right _ (Nat.log2_self_le hn)
  · rw [Nat.add_right_comm, Nat.pow_add]
    exact Nat.mul_lt_mul_of_pos_right Nat.lt_log2_self (Nat.two_pow_pos k)

/-- Rounding a whole number in units is rounding it as a whole number, where a unit is small
enough for the step of the units not to exceed one. -/
theorem roundUnits_mul_two_pow (n : Nat) {u : Nat} (hu : 52 ≤ u) :
    roundUnits (n * 2 ^ u) 1 = nearestNat n * 2 ^ u := by
  by_cases hzero : n = 0
  · simp [hzero, roundUnits, nearestNat, divNearest]
  · have hexponent : ulpExponent (n * 2 ^ u / 1) = n.log2 + (u - 52) := by
      rw [Nat.div_one, ulpExponent, log2_mul_two_pow hzero]
      omega
    unfold roundUnits
    simp only [hexponent, Nat.pow_eq, Nat.one_mul]
    rcases Nat.le_total n.log2 52 with hsmall | hlarge
    · -- No bit is lost: the step of the units divides one.
      have hsplit : n * 2 ^ u = n * 2 ^ (52 - n.log2) * 2 ^ (n.log2 + (u - 52)) := by
        rw [Nat.mul_assoc, ← Nat.pow_add]
        congr 2
        omega
      have hkept : nearestNat n = n := by
        rw [nearestNat_eq_self_iff, wholeStep, show n.log2 - 52 = 0 by omega, Nat.pow_zero]
        exact Nat.one_dvd n
      rw [hsplit, divNearest_mul_self _ (Nat.two_pow_pos _), ← hsplit, hkept]
    · have hsplit : 2 ^ (n.log2 + (u - 52)) = wholeStep n * 2 ^ u := by
        rw [wholeStep, ← Nat.pow_add]
        congr 1
        omega
      rw [hsplit, divNearest_mul_right _ _ (Nat.two_pow_pos u), ← Nat.mul_assoc]
      rfl

/-- One is a power of two in units, neither the smallest nor one of the largest. -/
theorem exists_unitsOfOne_eq : ∃ u, 52 ≤ u ∧ u < 2033 ∧ Finite64.unitsOfOne = Nat.pow 2 u :=
  ⟨1074, by decide, by decide, by decide +kernel⟩

theorem roundUnits_whole (n : Nat) :
    roundUnits (n * Finite64.unitsOfOne) 1 = nearestNat n * Finite64.unitsOfOne := by
  obtain ⟨u, hu, -, hone⟩ := exists_unitsOfOne_eq
  rw [hone, Nat.pow_eq]
  exact roundUnits_mul_two_pow n hu

theorem unitsOfOne_pos : 0 < Finite64.unitsOfOne := by
  obtain ⟨u, -, -, hone⟩ := exists_unitsOfOne_eq
  rw [hone, Nat.pow_eq]
  exact Nat.two_pow_pos u

/-- A whole number of up to 64 bits is far below the largest floating-point number. -/
theorem log2_mul_unitsOfOne_lt {m : Nat} (h : m ≤ 2 ^ 64) :
    (m * Finite64.unitsOfOne).log2 < 2098 := by
  obtain ⟨u, -, hu, hone⟩ := exists_unitsOfOne_eq
  by_cases hzero : m = 0
  · simp [hzero]
  · have hlog : m.log2 < 65 := (Nat.log2_lt hzero).2 (by omega)
    rw [hone, Nat.pow_eq, log2_mul_two_pow hzero]
    omega

/-- The floating-point number of a whole number below `2 ^ 64` is finite, and is the rounded whole
number in units. -/
theorem ofInt_eq_finite {n : Int} (h : n.natAbs ≤ 2 ^ 64) :
    ∃ x : Finite64, Binary64.ofInt n = .finite x ∧ x.negative = decide (n < 0) ∧
      x.units = nearestNat n.natAbs * Finite64.unitsOfOne := by
  have hunits := roundUnits_whole n.natAbs
  have hlog : (roundUnits (n.natAbs * Finite64.unitsOfOne) 1).log2 < 2098 := by
    rw [hunits]
    exact log2_mul_unitsOfOne_lt (nearestNat_le_two_pow h)
  exact ⟨⟨n < 0, _, .of_rounded hlog⟩, dif_pos hlog, rfl, hunits⟩

/-! ### The rounded number read back -/

theorem nearestInt_of_nonneg {n : Int} (h : 0 ≤ n) : nearestInt n = nearestNat n.natAbs :=
  if_neg (by omega)

theorem nearestInt_of_neg {n : Int} (h : n < 0) : nearestInt n = -(nearestNat n.natAbs : Int) :=
  if_pos h

theorem natAbs_nearestInt (n : Int) : (nearestInt n).natAbs = nearestNat n.natAbs := by
  unfold nearestInt
  split <;> simp

/-- The whole numbers that are kept are those that need at most 53 significant bits. -/
theorem nearestInt_eq_self_iff {n : Int} : nearestInt n = n ↔ FitsSignificand n := by
  rw [FitsSignificand, ← nearestNat_eq_self_iff]
  rcases Int.lt_or_le n 0 with hneg | hnonneg
  · rw [nearestInt_of_neg hneg]
    omega
  · rw [nearestInt_of_nonneg hnonneg]
    omega

theorem fitsSignificand_of_natAbs_le {n : Int} (h : n.natAbs ≤ 2 ^ 53) : FitsSignificand n :=
  wholeStep_dvd_of_le h

/-- No whole number of at most 53 significant bits is nearer than the rounded one. -/
theorem nearestInt_nearest {n m : Int} (hm : FitsSignificand m) :
    (n - nearestInt n).natAbs ≤ (n - m).natAbs := by
  have hsame := nearestNat_nearest (n := n.natAbs) hm
  have hzero := nearestNat_nearest (n := n.natAbs) (Nat.dvd_zero (wholeStep 0))
  rcases Int.lt_or_le n 0 with hneg | hnonneg
  · rw [nearestInt_of_neg hneg]
    omega
  · rw [nearestInt_of_nonneg hnonneg]
    omega

/-- A rounded number needs at most 53 significant bits. -/
theorem fitsSignificand_nearestInt (n : Int) : FitsSignificand (nearestInt n) := by
  rw [FitsSignificand, natAbs_nearestInt]
  exact wholeStep_nearestNat_dvd n.natAbs

/-- A rounded number is kept by rounding. -/
theorem nearestInt_nearestInt (n : Int) : nearestInt (nearestInt n) = nearestInt n :=
  nearestInt_eq_self_iff.2 (fitsSignificand_nearestInt n)

/-- Rounding does not lead beyond a power of two. -/
theorem natAbs_nearestInt_le {n : Int} {k : Nat} (h : n.natAbs ≤ 2 ^ k) :
    (nearestInt n).natAbs ≤ 2 ^ k := by
  rw [natAbs_nearestInt]
  exact nearestNat_le_two_pow h

/-- What `Binary64.ofInt` makes of a whole number, seen through truncation and through units. -/
theorem ofInt_spec {n : Int} (h : n.natAbs ≤ 2 ^ 64) :
    ∃ x : Finite64, Binary64.ofInt n = .finite x ∧ x.truncate = nearestInt n ∧
      x.signedUnits = nearestInt n * Finite64.unitsOfOne := by
  obtain ⟨x, hx, hsign, hunits⟩ := ofInt_eq_finite h
  refine ⟨x, hx, ?_, ?_⟩
  · rw [Finite64.truncate, hsign, hunits, Nat.mul_div_cancel _ unitsOfOne_pos, nearestInt]
    simp
  · rw [Finite64.signedUnits, hsign, hunits, nearestInt]
    simp only [decide_eq_true_eq]
    split
    · rw [Int.natCast_mul, Int.neg_mul]
    · rw [Int.natCast_mul]

/-- Floating-point numbers of whole numbers are equal where the rounded numbers are. -/
theorem equals_ofInt_iff {m n : Int} (hm : m.natAbs ≤ 2 ^ 64) (hn : n.natAbs ≤ 2 ^ 64) :
    (Binary64.ofInt m).Equals (.ofInt n) ↔ nearestInt m = nearestInt n := by
  obtain ⟨x, hx, -, hxunits⟩ := ofInt_spec hm
  obtain ⟨y, hy, -, hyunits⟩ := ofInt_spec hn
  have hpos : (Finite64.unitsOfOne : Int) ≠ 0 :=
    Int.ofNat_ne_zero.2 (Nat.pos_iff_ne_zero.1 unitsOfOne_pos)
  rw [hx, hy]
  show x.signedUnits = y.signedUnits ↔ _
  rw [hxunits, hyunits, Int.mul_eq_mul_right_iff hpos]

/-- Floating-point numbers of whole numbers are ordered as the rounded numbers are. -/
theorem ofInt_lt_ofInt_iff {m n : Int} (hm : m.natAbs ≤ 2 ^ 64) (hn : n.natAbs ≤ 2 ^ 64) :
    Binary64.ofInt m < Binary64.ofInt n ↔ nearestInt m < nearestInt n := by
  obtain ⟨x, hx, -, hxunits⟩ := ofInt_spec hm
  obtain ⟨y, hy, -, hyunits⟩ := ofInt_spec hn
  have hpos : (0 : Int) < Finite64.unitsOfOne := Int.natCast_pos.2 unitsOfOne_pos
  rw [hx, hy]
  show x.signedUnits < y.signedUnits ↔ _
  rw [hxunits, hyunits]
  exact Int.mul_lt_mul_right hpos

end LooseRecords
