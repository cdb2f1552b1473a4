import LooseRecords.Number.Shortest
import LooseRecords.Proofs.Number.Decimal
import LooseRecords.Proofs.Text.Digits

/-!
# What shortest decimals are

The shortest decimal of a number reads back as the number, as a candidate is taken only if it does
(`Finite64.isReadFrom_shortest`).  With seventeen digits there is always a candidate
(`Finite64.exists_candidate`), so that the search never fails and no shortest decimal is longer.  Of a
whole number the shortest decimal is whole as well (`Finite64.exists_magnitude_shortest_eq`), since the
candidate that has just the digits of the whole part reads back and is tried before those with a
fraction.  And none is larger than the shortest decimal of the largest number
(`Finite64.magnitude_shortest_le`).

The size of a decimal is the exponent of its first digit.  It is compared with a power of ten by
comparing the number with what the power is read as (`Finite64.le_leadingExponent_shortest_iff`), which
leaves one number to be looked at by itself, the one that the power is read as.
-/

namespace LooseRecords

/-! ### The size of a decimal -/

namespace Decimal

/-- The exponent of the first digit. -/
def leadingExponent (d : Decimal) : Int :=
  d.exponent + (Digits.decimal d.significand).length - 1

/-- The size of a decimal is found by comparing it with powers of ten. -/
theorem le_leadingExponent_iff {d : Decimal} (h : d.significand ≠ 0) {k : Int} :
    k ≤ d.leadingExponent ↔ (10 : ℚ) ^ k ≤ d.magnitude := by
  obtain ⟨hlower, hupper⟩ := Digits.pow_le_and_lt_pow h
  have hlength : 0 < (Digits.decimal d.significand).length :=
    List.length_pos_iff.2 (Digits.decimal_ne_nil _)
  have hten : (1 : ℚ) < 10 := by norm_num
  have hpow : (0 : ℚ) < 10 ^ d.exponent := by positivity
  have hbelow : (10 : ℚ) ^ d.leadingExponent ≤ d.magnitude := by
    have hsplit : d.leadingExponent =
        ((Digits.decimal d.significand).length - 1 : Nat) + d.exponent := by
      unfold leadingExponent
      omega
    rw [hsplit, zpow_add₀ (by norm_num), zpow_natCast]
    exact mul_le_mul_of_nonneg_right (by exact_mod_cast hlower) (le_of_lt hpow)
  have habove : d.magnitude < (10 : ℚ) ^ (d.leadingExponent + 1) := by
    have hsplit : d.leadingExponent + 1 =
        ((Digits.decimal d.significand).length : Nat) + d.exponent := by
      unfold leadingExponent
      omega
    rw [hsplit, zpow_add₀ (by norm_num), zpow_natCast]
    exact mul_lt_mul_of_pos_right (by exact_mod_cast hupper) hpow
  constructor
  · exact fun hle => le_trans ((zpow_le_zpow_iff_right₀ hten).2 hle) hbelow
  · exact fun hle => Int.lt_add_one_iff.1
      ((zpow_lt_zpow_iff_right₀ hten).1 (lt_of_le_of_lt hle habove))

end Decimal

namespace Finite64

variable {tie : Tie} {x : Finite64}

/-! ### Reading back -/

/-- The exact digits are the value times a power of ten. -/
theorem exists_exactDigits_eq :
    ∃ u : Nat, u = 1074 ∧ ∀ x : Finite64, x.exactDigits * unitsOfOne = x.units * 10 ^ u := by
  obtain ⟨u, hu⟩ : ∃ u : Nat, u = 1074 := ⟨1074, rfl⟩
  have hten : Nat.pow 5 u * unitsOfOne = Nat.pow 10 u := by
    rw [hu]
    decide +kernel
  refine ⟨u, hu, fun x => ?_⟩
  rw [exactDigits, ← hu, Nat.mul_assoc, hten, Nat.pow_eq]

theorem magnitude_toDecimal (x : Finite64) : x.toDecimal.magnitude * unitsOfOne = x.units := by
  obtain ⟨u, hu, hexact⟩ := exists_exactDigits_eq
  have hexponent : x.toDecimal.exponent = -(u : Int) := by
    rw [hu]
    rfl
  have hscaled : (x.exactDigits : ℚ) * unitsOfOne = x.units * 10 ^ u := by exact_mod_cast hexact x
  rw [Decimal.magnitude, hexponent, zpow_neg, zpow_natCast, mul_right_comm,
    show x.toDecimal.significand = x.exactDigits from rfl, hscaled, mul_assoc,
    mul_inv_cancel₀ (by positivity), mul_one]

/-- The exact decimal of a number reads back. -/
theorem isReadFrom_toDecimal (x : Finite64) : x.IsReadFrom x.toDecimal :=
  Decimal.toBinary64_of_magnitude_eq rfl x.magnitude_toDecimal

/-- A candidate reads back, the digits that were dropped make its exponent, and it is next to the exact
value. -/
theorem of_candidate? {dropped : Nat} {d : Decimal} (h : candidate? tie x dropped = some d) :
    x.IsReadFrom d ∧ d.exponent = (dropped : Int) - 1074 ∧
      d.significand ≤ x.exactDigits / 10 ^ dropped + 1 := by
  unfold candidate? at h
  dsimp only at h
  split_ifs at h with hlower hboth hupper
  · cases h
    exact ⟨hboth.1, rfl, Nat.le_refl _⟩
  · cases h
    exact ⟨hlower, rfl, Nat.le_succ _⟩
  · cases h
    exact ⟨hupper, rfl, Nat.le_refl _⟩

/-- There is a candidate where one of the neighbours of the exact value reads back. -/
theorem exists_candidate_of_isReadFrom {dropped below : Nat}
    (hbelow : x.exactDigits / 10 ^ dropped = below)
    (h : x.IsReadFrom ⟨x.negative, below, (dropped : Int) - 1074⟩ ∨
      x.IsReadFrom ⟨x.negative, below + 1, (dropped : Int) - 1074⟩) :
    ∃ d, candidate? tie x dropped = some d := by
  unfold candidate?
  simp only [Nat.pow_eq, hbelow]
  split_ifs with hlower hboth hupper
  · exact ⟨_, rfl⟩
  · exact ⟨_, rfl⟩
  · exact ⟨_, rfl⟩
  · exact absurd h (not_or_intro hlower hupper)

/-! ### Seventeen digits -/

/-- Decimals near to the exact value read back. -/
theorem isReadFrom_of_near {significand dropped : Nat}
    (h : |(significand * 10 ^ dropped : ℚ) - x.exactDigits| * 2 ^ 54 < x.exactDigits) :
    x.IsReadFrom ⟨x.negative, significand, (dropped : Int) - 1074⟩ := by
  obtain ⟨u, hu, -⟩ := exists_exactDigits_eq
  have hscale : (0 : ℚ) < (10 ^ u)⁻¹ * unitsOfOne :=
    mul_pos (inv_pos.2 (pow_pos (by norm_num) u)) (Nat.cast_pos.2 unitsOfOne_pos)
  have hmagnitude : (⟨x.negative, significand, (dropped : Int) - 1074⟩ : Decimal).magnitude *
      unitsOfOne = significand * 10 ^ dropped * ((10 ^ u)⁻¹ * unitsOfOne) := by
    rw [Decimal.magnitude, show (dropped : Int) - 1074 = dropped + -(u : Int) by omega,
      zpow_add₀ (by norm_num), zpow_neg, zpow_natCast, zpow_natCast]
    ring
  have hunits : (x.units : ℚ) = x.exactDigits * ((10 ^ u)⁻¹ * unitsOfOne) := by
    rw [← x.magnitude_toDecimal, Decimal.magnitude,
      show x.toDecimal.exponent = -(u : Int) by rw [hu]; rfl, zpow_neg, zpow_natCast, mul_assoc]
    rfl
  refine Decimal.toBinary64_of_near rfl ?_
  rw [hmagnitude, hunits, ← sub_mul, abs_mul, abs_of_pos hscale, mul_right_comm]
  exact mul_lt_mul_of_pos_right h hscale

/-- One of the two neighbours of a number on a grid is off by half a step at most. -/
theorem abs_sub_le_half_or (n : Nat) {step : Nat} (hstep : 0 < step) :
    2 * |((n / step : Nat) * step : ℚ) - n| ≤ step ∨
      2 * |((n / step + 1 : Nat) * step : ℚ) - n| ≤ step := by
  have hrest : n % step ≤ step := Nat.le_of_lt (Nat.mod_lt n hstep)
  have hsum : (n : ℚ) = (n / step : Nat) * step + (n % step : Nat) := by
    exact_mod_cast (Nat.div_add_mod' n step).symm
  generalize n / step = below at hsum ⊢
  generalize n % step = rest at hrest hsum
  rcases Nat.le_total (2 * rest) step with hnear | hnear
  · left
    rw [hsum, sub_add_cancel_left, abs_neg, Nat.abs_cast]
    exact_mod_cast hnear
  · right
    have hrest : (rest : ℚ) ≤ step := by exact_mod_cast hrest
    have hnear : (step : ℚ) ≤ 2 * rest := by exact_mod_cast hnear
    rw [hsum, Nat.cast_succ, add_one_mul, add_sub_add_left_eq_sub, abs_of_nonneg (sub_nonneg.2 hrest)]
    linarith

/-- With seventeen digits there is a candidate: one of the two neighbours of the exact value is off by half
a step at most, and a step is at most one part in `10 ^ 16`. -/
theorem exists_candidate (tie : Tie) (x : Finite64) :
    ∃ d, candidate? tie x ((Digits.decimal x.exactDigits).length - 17) = some d := by
  obtain ⟨dropped, hdropped⟩ : ∃ dropped, dropped = (Digits.decimal x.exactDigits).length - 17 :=
    ⟨_, rfl⟩
  rw [← hdropped]
  refine exists_candidate_of_isReadFrom rfl ?_
  by_cases hall : dropped = 0
  · left
    rw [hall, Nat.pow_zero, Nat.div_one]
    exact x.isReadFrom_toDecimal
  · have hzero : x.exactDigits ≠ 0 := by
      intro hzero
      rw [hzero] at hdropped
      exact hall hdropped
    have hsize : 10 ^ 16 * 10 ^ dropped ≤ x.exactDigits := by
      rw [← Nat.pow_add]
      refine Nat.le_trans (Nat.pow_le_pow_right (by decide) ?_) (Digits.pow_le_and_lt_pow hzero).1
      omega
    have hstep : (0 : ℚ) < 10 ^ dropped := by positivity
    have hsize : (10 ^ 16 * 10 ^ dropped : ℚ) ≤ x.exactDigits := by exact_mod_cast hsize
    have hnear := abs_sub_le_half_or x.exactDigits (Nat.pow_pos (n := dropped) (by decide : 0 < 10))
    rw [Nat.cast_pow, Nat.cast_ofNat] at hnear
    refine hnear.imp (fun hlower => isReadFrom_of_near ?_) fun hupper => isReadFrom_of_near ?_
    · linarith
    · linarith

/-- The first number at which something is found has nothing before it. -/
theorem exists_of_findSome?_range {α : Type} {f : Nat → Option α} {n : Nat} {a : α}
    (h : (List.range n).findSome? f = some a) : ∃ i < n, f i = some a ∧ ∀ j < i, f j = none := by
  obtain ⟨before, i, after, hrange, hfound, hnone⟩ := List.findSome?_eq_some_iff.1 h
  have hsorted : (before ++ i :: after).Pairwise (· < ·) := hrange ▸ List.pairwise_lt_range
  obtain ⟨-, hafter, -⟩ := List.pairwise_append.1 hsorted
  have hi : i < n := by
    rw [← List.mem_range, hrange]
    exact List.mem_append_right _ List.mem_cons_self
  refine ⟨i, hi, hfound, fun j hj => hnone j ?_⟩
  have hmem : j ∈ before ++ i :: after := by
    rw [← hrange, List.mem_range]
    exact Nat.lt_trans hj hi
  rcases List.mem_append.1 hmem with hbefore | hrest
  · exact hbefore
  · rcases List.mem_cons.1 hrest with rfl | hlast
    · exact absurd hj (Nat.lt_irrefl _)
    · exact absurd hj (Nat.not_lt_of_gt ((List.pairwise_cons.1 hafter).1 j hlast))

/-- The search for the shortest decimal: the first count of digits with a candidate decides, and it is
seventeen at most. -/
theorem exists_candidate_eq_shortest (tie : Tie) (x : Finite64) :
    ∃ i < 17, candidate? tie x ((Digits.decimal x.exactDigits).length - (i + 1)) =
        some (x.shortest tie) ∧
      ∀ j < i, candidate? tie x ((Digits.decimal x.exactDigits).length - (j + 1)) = none := by
  unfold shortest
  dsimp only
  generalize hsearch : List.findSome? (fun i =>
    candidate? tie x ((Digits.decimal x.exactDigits).length - (i + 1))) (List.range 17) = found
  cases found with
  | some d => exact exists_of_findSome?_range hsearch
  | none =>
    obtain ⟨d, hd⟩ := exists_candidate tie x
    have hnone := List.findSome?_eq_none_iff.1 hsearch 16 (by simp)
    rw [hd] at hnone
    cases hnone

/-- The shortest decimal reads back. -/
theorem isReadFrom_shortest (tie : Tie) (x : Finite64) : x.IsReadFrom (x.shortest tie) := by
  obtain ⟨i, -, hcandidate, -⟩ := exists_candidate_eq_shortest tie x
  exact (of_candidate? hcandidate).1

/-- A shortest decimal has at most seventeen digits, or rounding up has made it the next power of
ten. -/
theorem significand_shortest_le (tie : Tie) (x : Finite64) :
    (x.shortest tie).significand ≤ 10 ^ 17 := by
  obtain ⟨i, hi, hcandidate, -⟩ := exists_candidate_eq_shortest tie x
  obtain ⟨-, -, hle⟩ := of_candidate? hcandidate
  have hdigits : x.exactDigits <
      10 ^ ((Digits.decimal x.exactDigits).length - (i + 1)) * 10 ^ 17 := by
    refine Nat.lt_of_lt_of_le (Digits.lt_pow_length _) ?_
    rw [← Nat.pow_add]
    exact Nat.pow_le_pow_right (by decide) (by omega)
  have hbelow := Nat.div_lt_of_lt_mul hdigits
  omega

theorem negative_shortest (tie : Tie) (x : Finite64) : (x.shortest tie).negative = x.negative :=
  (Decimal.toBinary64_eq_finite_iff.1 (x.isReadFrom_shortest tie)).1

theorem roundedUnits_shortest (tie : Tie) (x : Finite64) :
    (x.shortest tie).roundedUnits = x.units :=
  (Decimal.toBinary64_eq_finite_iff.1 (x.isReadFrom_shortest tie)).2

/-- Only zero has a shortest decimal without a significant digit. -/
theorem significand_shortest_ne_zero (h : x.units ≠ 0) : (x.shortest tie).significand ≠ 0 := by
  intro hzero
  have hread := x.isReadFrom_shortest tie
  rw [IsReadFrom, Decimal.toBinary64, if_pos hzero] at hread
  exact h (congrArg units (Binary64.finite.inj hread)).symm

/-! ### Whole numbers -/

/-- The shortest decimal of a whole number is whole. -/
theorem exists_magnitude_shortest_eq (tie : Tie) (hwhole : x.IsWhole) (hzero : x.units ≠ 0) :
    ∃ n : Nat, (x.shortest tie).magnitude = n := by
  obtain ⟨u, hu, hexact⟩ := exists_exactDigits_eq
  obtain ⟨n, hn⟩ := hwhole
  have hunits : (n : ℚ) * unitsOfOne = x.units := by
    rw [hn]
    push_cast
    ring
  obtain ⟨i, -, hcandidate, hfirst⟩ := exists_candidate_eq_shortest tie x
  obtain ⟨-, hexponent, -⟩ := of_candidate? hcandidate
  by_cases hdropped : u ≤ (Digits.decimal x.exactDigits).length - (i + 1)
  · -- All digits after the point were dropped.
    refine ⟨(x.shortest tie).significand *
      10 ^ ((Digits.decimal x.exactDigits).length - (i + 1) - u), ?_⟩
    have hnat : (x.shortest tie).exponent =
        ((Digits.decimal x.exactDigits).length - (i + 1) - u : Nat) := by omega
    rw [Decimal.magnitude, hnat, zpow_natCast]
    push_cast
    rfl
  · -- The digits of the whole part alone were tried before, and they read back.
    exfalso
    have hdigits : x.exactDigits = n * 10 ^ u := by
      refine Nat.eq_of_mul_eq_mul_right unitsOfOne_pos ?_
      rw [hexact x, hn]
      ring
    have hnne : n ≠ 0 := by
      rintro rfl
      exact hzero (by rw [hn, Nat.mul_zero])
    have hlength : u < (Digits.decimal x.exactDigits).length := by
      have hlower : 10 ^ u ≤ x.exactDigits := by
        rw [hdigits]
        exact Nat.le_mul_of_pos_left _ (Nat.pos_of_ne_zero hnne)
      exact (Nat.pow_lt_pow_iff_right (by decide)).1
        (Nat.lt_of_le_of_lt hlower (Digits.lt_pow_length _))
    have hnone := hfirst ((Digits.decimal x.exactDigits).length - (u + 1)) (by omega)
    rw [show (Digits.decimal x.exactDigits).length -
      ((Digits.decimal x.exactDigits).length - (u + 1) + 1) = u by omega] at hnone
    have hread : x.IsReadFrom ⟨x.negative, n, (u : Int) - 1074⟩ := by
      refine Decimal.toBinary64_of_magnitude_eq rfl ?_
      rw [Decimal.magnitude, show (u : Int) - 1074 = 0 by omega, zpow_zero, mul_one]
      exact hunits
    have hbelow : x.exactDigits / 10 ^ u = n := by
      rw [hdigits, Nat.mul_div_cancel _ (by positivity)]
    obtain ⟨d, hd⟩ : ∃ d, candidate? tie x u = some d :=
      exists_candidate_of_isReadFrom hbelow (.inl hread)
    rw [hd] at hnone
    cases hnone

/-! ### Comparing with a power of ten -/

/-- The shortest decimal of a number is at least a power of ten exactly where the number is at least
what the power is read as, provided that this is so for the number that the power is read as. -/
theorem le_leadingExponent_shortest_iff {k : Int} {power : Finite64}
    (hpower : (⟨false, 1, k⟩ : Decimal).toBinary64 = .finite power)
    (hself : x.units = power.units → k ≤ (x.shortest tie).leadingExponent) (h : x.units ≠ 0) :
    k ≤ (x.shortest tie).leadingExponent ↔ power.units ≤ x.units := by
  have hunits : (⟨false, 1, k⟩ : Decimal).roundedUnits = power.units :=
    (Decimal.toBinary64_eq_finite_iff.1 hpower).2
  have hmagnitude : (⟨false, 1, k⟩ : Decimal).magnitude = (10 : ℚ) ^ k := by
    rw [Decimal.magnitude, Nat.cast_one, one_mul]
  constructor
  · intro hle
    rw [Decimal.le_leadingExponent_iff (significand_shortest_ne_zero h), ← hmagnitude] at hle
    rw [← hunits, ← x.roundedUnits_shortest tie]
    exact Decimal.roundedUnits_mono hle
  · intro hle
    rcases Nat.lt_or_eq_of_le hle with hlt | heq
    · -- A smaller decimal would be read as a number that is not above the power.
      by_contra hless
      rw [Decimal.le_leadingExponent_iff (significand_shortest_ne_zero h), ← hmagnitude,
        not_le] at hless
      have hbelow := Decimal.roundedUnits_mono (le_of_lt hless)
      rw [hunits, x.roundedUnits_shortest tie] at hbelow
      omega
    · exact hself heq.symm

/-! ### The largest number -/

/-- The units of the largest number.  They are not to be computed by the way. -/
@[irreducible]
def largestUnits : Nat :=
  Nat.pow 2 2098 - Nat.pow 2 2045

/-- The largest number of either sign. -/
def largest (negative : Bool) : Finite64 :=
  ⟨negative, largestUnits, by decide +kernel⟩

theorem negative_largest (negative : Bool) : (largest negative).negative = negative :=
  rfl

theorem units_largest (negative : Bool) : (largest negative).units = largestUnits :=
  rfl

theorem units_le_largestUnits (x : Finite64) : x.units ≤ largestUnits := by
  obtain ⟨e, he, hlargest⟩ : ∃ e, e = 2045 ∧ largestUnits = Nat.pow 2 (e + 53) - Nat.pow 2 e :=
    ⟨2045, rfl, by decide +kernel⟩
  rw [Nat.pow_eq, Nat.pow_eq] at hlargest
  have hlt : x.units < 2 ^ (e + 53) := by
    refine Nat.lt_of_lt_of_le Nat.lt_log2_self (Nat.pow_le_pow_right (by decide) ?_)
    have hlog := x.representable.log2_lt
    omega
  have hplace := x.representable.add_le_two_pow hlt
  omega

theorem shortest_largest (tie : Tie) (negative : Bool) :
    (largest negative).shortest tie = ⟨negative, 17976931348623157, 292⟩ := by
  cases tie <;> cases negative <;> decide +kernel

theorem eq_of_units_eq {x y : Finite64} (hnegative : x.negative = y.negative)
    (hunits : x.units = y.units) : x = y := by
  cases x
  cases y
  cases hnegative
  cases hunits
  rfl

/-- No shortest decimal is larger than that of the largest number. -/
theorem magnitude_shortest_le (tie : Tie) (x : Finite64) :
    (x.shortest tie).magnitude ≤ ((largest x.negative).shortest tie).magnitude := by
  by_contra hlt
  have hunits := Decimal.roundedUnits_mono (le_of_lt (not_le.1 hlt))
  rw [roundedUnits_shortest, roundedUnits_shortest, units_largest] at hunits
  -- The largest number itself would have two shortest decimals.
  have hlargest : x = largest x.negative :=
    eq_of_units_eq (negative_largest x.negative).symm
      (Nat.le_antisymm x.units_le_largestUnits hunits)
  exact hlt (le_of_eq (by rw [← hlargest]))

end Finite64
end LooseRecords
