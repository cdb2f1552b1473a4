import LooseRecords.Proofs.Number.Nearest

/-!
# Whole parts of floating-point numbers

The whole part of a floating-point number has no more significant bits than the number, so it is
again a floating-point number, and it is found back exactly where it is truncated again.
-/

namespace LooseRecords

/-- The whole part of a number of units has the step of its size. -/
theorem Representable.wholeStep_dvd {units : Nat} (h : Representable units) :
    wholeStep (units / Finite64.unitsOfOne) ∣ units / Finite64.unitsOfOne := by
  obtain ⟨u, hu, -, hone⟩ := exists_unitsOfOne_eq
  rw [hone, Nat.pow_eq]
  rcases Nat.lt_or_ge (units / 2 ^ u) (2 ^ 53) with hsmall | hlarge
  · exact wholeStep_dvd_of_le (Nat.le_of_lt hsmall)
  · have hwhole : units / 2 ^ u ≠ 0 := by omega
    -- All bits of the whole part are bits of the number, `u` places further up.
    have hshift : 2 ^ ((units / 2 ^ u).log2 + u) ≤ units := by
      rw [Nat.pow_add]
      exact (Nat.le_div_iff_mul_le (Nat.two_pow_pos u)).1 (Nat.log2_self_le hwhole)
    have hunits : units ≠ 0 := by
      rintro rfl
      simp at hwhole
    have hlog : (units / 2 ^ u).log2 + u ≤ units.log2 := (Nat.le_log2 hunits).2 hshift
    have hlogWhole : 53 ≤ (units / 2 ^ u).log2 := (Nat.le_log2 hwhole).2 hlarge
    have hdvd : wholeStep (units / 2 ^ u) * 2 ^ u ∣ units := by
      rw [wholeStep, ← Nat.pow_add]
      exact Nat.dvd_trans (Nat.pow_dvd_pow 2 (by omega)) h.ulp_dvd
    exact Nat.dvd_div_of_mul_dvd (by rwa [Nat.mul_comm])

namespace Finite64

theorem natAbs_truncate (x : Finite64) : x.truncate.natAbs = x.units / unitsOfOne := by
  unfold truncate
  split
  · rw [Int.natAbs_neg, Int.natAbs_natCast]
  · rw [Int.natAbs_natCast]

/-- The whole part of a number needs no more significant bits than the number. -/
theorem fitsSignificand_truncate (x : Finite64) : FitsSignificand x.truncate := by
  rw [FitsSignificand, natAbs_truncate]
  exact x.representable.wholeStep_dvd

end Finite64
end LooseRecords
