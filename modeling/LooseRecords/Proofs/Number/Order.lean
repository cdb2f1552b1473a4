import LooseRecords.Json.Value
import LooseRecords.Proofs.Number.Nearest

/-!
# The order of numbers in JSON

A number of a JSON value is compared as the floating-point number nearest to it.  Its exact value in
units is a whole number, and so is that of the floating-point number, so that taking the nearest is
the rounding `nearestInt` once more, this time of units (`Json.Number.exists_toBinary64_eq`).
Rounding keeps the order, hence two numbers are never compared the wrong way round; they may become
equal.
-/

namespace LooseRecords

/-- Rounding keeps the order of whole numbers. -/
theorem nearestInt_mono {m n : Int} (h : m ≤ n) : nearestInt m ≤ nearestInt n := by
  have hm : (m - nearestInt m).natAbs ≤ (m - nearestInt n).natAbs :=
    nearestInt_nearest (fitsSignificand_nearestInt n)
  have hn : (n - nearestInt n).natAbs ≤ (n - nearestInt m).natAbs :=
    nearestInt_nearest (fitsSignificand_nearestInt m)
  rcases Int.lt_or_eq_of_le h with hlt | rfl
  · omega
  · exact Int.le_refl _

/-! ### Rounding units -/

/-- Units are rounded like whole numbers. -/
theorem roundUnits_one (units : Nat) : roundUnits units 1 = nearestNat units := by
  unfold roundUnits nearestNat wholeStep ulpExponent
  simp only [Nat.div_one, Nat.one_mul, Nat.pow_eq]

/-- A whole number is rounded alike in ones and in units. -/
theorem nearestInt_mul_unitsOfOne (n : Int) :
    nearestInt (n * Finite64.unitsOfOne) = nearestInt n * Finite64.unitsOfOne := by
  have hone : (0 : Int) < Finite64.unitsOfOne := Int.natCast_pos.2 unitsOfOne_pos
  have hround : nearestNat (n.natAbs * Finite64.unitsOfOne) =
      nearestNat n.natAbs * Finite64.unitsOfOne := by
    rw [← roundUnits_one, roundUnits_whole]
  have hnatAbs : (n * Finite64.unitsOfOne).natAbs = n.natAbs * Finite64.unitsOfOne := by
    rw [Int.natAbs_mul, Int.natAbs_natCast]
  rcases Int.lt_or_le n 0 with hneg | hnonneg
  · rw [nearestInt_of_neg hneg, nearestInt_of_neg (Int.mul_neg_of_neg_of_pos hneg hone), hnatAbs,
      hround, Int.natCast_mul, Int.neg_mul]
  · rw [nearestInt_of_nonneg hnonneg,
      nearestInt_of_nonneg (Int.mul_nonneg hnonneg (Int.le_of_lt hone)), hnatAbs, hround,
      Int.natCast_mul]

theorem Finite64.natAbs_signedUnits (x : Finite64) : x.signedUnits.natAbs = x.units := by
  unfold signedUnits
  split <;> simp

/-- The units of a floating-point number are kept by rounding. -/
theorem Finite64.nearestInt_signedUnits (x : Finite64) :
    nearestInt x.signedUnits = x.signedUnits := by
  rw [nearestInt_eq_self_iff, FitsSignificand, x.natAbs_signedUnits]
  exact x.representable.ulp_dvd

/-! ### The numbers of JSON values -/

/-- The exact value in units, if the number is finite. The two zeros have the same. -/
def Binary64.units? (x : Binary64) : Option Int :=
  x.finite?.map Finite64.signedUnits

namespace Json.Number

/-- The exact value in units. -/
def exactUnits : Json.Number → Int
  | .integer n => n.val * Finite64.unitsOfOne
  | .decimal x => x.signedUnits

/-- The floating-point number of a number is finite, and its value is the rounded exact value. -/
theorem exists_toBinary64_eq (n : Json.Number) :
    ∃ x : Finite64, n.toBinary64 = .finite x ∧ x.signedUnits = nearestInt n.exactUnits := by
  cases n with
  | integer n =>
    have hbound : n.val.natAbs ≤ 2 ^ 64 := by
      have hlower := n.lower
      have hupper := n.upper
      omega
    obtain ⟨x, hx, -, hunits⟩ := ofInt_spec hbound
    refine ⟨x, hx, ?_⟩
    rw [hunits, exactUnits, nearestInt_mul_unitsOfOne]
  | decimal x => exact ⟨x, rfl, x.nearestInt_signedUnits.symm⟩

theorem units?_toBinary64 (n : Json.Number) :
    n.toBinary64.units? = some (nearestInt n.exactUnits) := by
  obtain ⟨x, hx, hunits⟩ := n.exists_toBinary64_eq
  rw [hx, ← hunits]
  rfl

/-- The floating-point number of a number is not greater than that of a larger number. -/
theorem not_toBinary64_lt {m n : Json.Number} (h : m.exactUnits ≤ n.exactUnits) :
    ¬n.toBinary64 < m.toBinary64 := by
  obtain ⟨x, hx, hxunits⟩ := m.exists_toBinary64_eq
  obtain ⟨y, hy, hyunits⟩ := n.exists_toBinary64_eq
  have hle : x.signedUnits ≤ y.signedUnits := by
    rw [hxunits, hyunits]
    exact nearestInt_mono h
  rw [hx, hy]
  show ¬y.signedUnits < x.signedUnits
  omega

end Json.Number
end LooseRecords
