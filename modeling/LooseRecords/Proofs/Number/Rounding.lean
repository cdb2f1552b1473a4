import LooseRecords.Proofs.Number.Nearest
import Mathlib.Tactic.Ring
import Mathlib.Tactic.SplitIfs

/-!
# Rounding depends on the ratio and keeps the order

A ratio of two numbers of units is rounded to 53 significant bits in two steps: the size of its whole
part says how many places are dropped, and the ratio is then rounded at this place.  The two steps
together are a function of the ratio alone, however it is written, and a larger ratio is never rounded
to fewer units (`roundUnits_mono`).  Where the number of places changes from one ratio to the next, a
power of two lies between what they are rounded to.

A number that needs no rounding is kept (`Representable.roundUnits_mul`), and it is what all ratios near
to it are rounded to (`Representable.roundUnits_of_near`): two numbers that can be had are never so near
to each other as to differ by less than one part in `2 ^ 53`.
-/

namespace LooseRecords

/-! ### Rounding a quotient -/

theorem le_divNearest (num den : Nat) : num / den ≤ divNearest num den := by
  unfold divNearest
  dsimp only
  split
  · exact Nat.le_refl _
  · split <;> omega

/-- A quotient is rounded to the whole number that it differs from by less than half. -/
theorem divNearest_eq_of_near {num den q : Nat} (hden : 0 < den) (hbelow : 2 * (q * den) < 2 * num + den)
    (habove : 2 * num < 2 * (q * den) + den) : divNearest num den = q := by
  obtain ⟨hupper, hlower⟩ := divNearest_spec num hden
  have hle : divNearest num den * den < (q + 1) * den := by
    rw [Nat.succ_mul]
    omega
  have hge : q * den < (divNearest num den + 1) * den := by
    rw [Nat.succ_mul]
    omega
  exact Nat.le_antisymm (Nat.lt_succ_iff.1 (Nat.lt_of_mul_lt_mul_right hle))
    (Nat.lt_succ_iff.1 (Nat.lt_of_mul_lt_mul_right hge))

/-- A larger ratio has no smaller whole part. -/
theorem div_le_div_of_mul_le {num den num' den' : Nat} (hden : 0 < den) (hden' : 0 < den')
    (h : num * den' ≤ num' * den) : num / den ≤ num' / den' := by
  rw [Nat.le_div_iff_mul_le hden']
  refine Nat.le_of_mul_le_mul_right (?_ : num / den * den' * den ≤ num' * den) hden
  calc num / den * den' * den = num / den * den * den' := Nat.mul_right_comm _ _ _
    _ ≤ num * den' := Nat.mul_le_mul_right _ (Nat.div_mul_le_self num den)
    _ ≤ num' * den := h

/-- A larger ratio is not rounded to a smaller number. -/
theorem divNearest_mono {num den num' den' : Nat} (hden : 0 < den) (hden' : 0 < den')
    (h : num * den' ≤ num' * den) : divNearest num den ≤ divNearest num' den' := by
  have hquotient := div_le_div_of_mul_le hden hden' h
  rcases Nat.lt_or_eq_of_le hquotient with hlt | heq
  · have hbelow := divNearest_le num den
    have habove := le_divNearest num' den'
    omega
  · -- With the same whole part the ratios compare as what is left over.
    have hrest : num % den * den' ≤ num' % den' * den := by
      have hnum : num = den * (num / den) + num % den := (Nat.div_add_mod num den).symm
      have hnum' : num' = den' * (num / den) + num' % den' := by
        rw [heq]
        exact (Nat.div_add_mod num' den').symm
      have hshared : den * (num / den) * den' = den' * (num / den) * den := by
        rw [Nat.mul_right_comm, Nat.mul_right_comm den', Nat.mul_comm den den']
      rw [hnum, hnum', Nat.add_mul, Nat.add_mul, hshared] at h
      exact Nat.le_of_add_le_add_left h
    have hhalf : den ≤ 2 * (num % den) → den' ≤ 2 * (num' % den') := by
      intro hle
      refine Nat.le_of_mul_le_mul_right (?_ : den' * den ≤ 2 * (num' % den') * den) hden
      have hscaled := Nat.mul_le_mul_right den' hle
      rw [Nat.mul_assoc] at hscaled ⊢
      rw [Nat.mul_comm den' den]
      omega
    have hmore : den < 2 * (num % den) → den' < 2 * (num' % den') := by
      intro hlt
      refine Nat.lt_of_mul_lt_mul_right (?_ : den' * den < 2 * (num' % den') * den)
      have hscaled := Nat.mul_lt_mul_of_pos_right hlt hden'
      rw [Nat.mul_assoc] at hscaled ⊢
      rw [Nat.mul_comm den' den]
      omega
    unfold divNearest
    dsimp only
    rw [heq]
    split_ifs <;> omega

/-! ### Rounding to significant bits -/

/-- Rounding does not lead beyond a power of two above. -/
theorem roundUnits_le_two_pow {num den k : Nat} (h : num / den < 2 ^ k) :
    roundUnits num den ≤ 2 ^ k := by
  have hplaces : ulpExponent (num / den) ≤ k := by
    unfold ulpExponent
    by_cases hzero : num / den = 0
    · simp [hzero]
    · have := (Nat.log2_lt hzero).2 h
      omega
  have hsplit : 2 ^ k = 2 ^ (k - ulpExponent (num / den)) * 2 ^ ulpExponent (num / den) := by
    rw [← Nat.pow_add, Nat.sub_add_cancel hplaces]
  have hquotient : num / den / 2 ^ ulpExponent (num / den) <
      2 ^ (k - ulpExponent (num / den)) :=
    Nat.div_lt_of_lt_mul (by rw [Nat.mul_comm, ← hsplit]; exact h)
  have hround := divNearest_le num (den * 2 ^ ulpExponent (num / den))
  rw [← Nat.div_div_eq_div_mul] at hround
  unfold roundUnits
  simp only [Nat.pow_eq]
  rw [hsplit]
  exact Nat.mul_le_mul_right _ (Nat.le_trans hround hquotient)

/-- Nor does it lead below a power of two underneath. -/
theorem two_pow_le_roundUnits {num den k : Nat} (h : 2 ^ k ≤ num / den) :
    2 ^ k ≤ roundUnits num den := by
  have hzero : num / den ≠ 0 := by
    have := Nat.two_pow_pos k
    omega
  have hplaces : ulpExponent (num / den) ≤ (num / den).log2 := Nat.sub_le _ _
  have hsplit : 2 ^ (num / den).log2 =
      2 ^ ((num / den).log2 - ulpExponent (num / den)) * 2 ^ ulpExponent (num / den) := by
    rw [← Nat.pow_add, Nat.sub_add_cancel hplaces]
  have hquotient : 2 ^ ((num / den).log2 - ulpExponent (num / den)) ≤
      num / den / 2 ^ ulpExponent (num / den) := by
    rw [Nat.le_div_iff_mul_le (Nat.two_pow_pos _), ← hsplit]
    exact Nat.log2_self_le hzero
  have hround := le_divNearest num (den * 2 ^ ulpExponent (num / den))
  rw [← Nat.div_div_eq_div_mul] at hround
  calc 2 ^ k ≤ 2 ^ (num / den).log2 :=
        Nat.pow_le_pow_right (by decide) ((Nat.le_log2 hzero).2 h)
    _ ≤ roundUnits num den := by
        unfold roundUnits
        simp only [Nat.pow_eq]
        rw [hsplit]
        exact Nat.mul_le_mul_right _ (Nat.le_trans hquotient hround)

/-- A larger ratio is not rounded to fewer units. -/
theorem roundUnits_mono {num den num' den' : Nat} (hden : 0 < den) (hden' : 0 < den')
    (h : num * den' ≤ num' * den) : roundUnits num den ≤ roundUnits num' den' := by
  have hquotient := div_le_div_of_mul_le hden hden' h
  have hlog : (num / den).log2 ≤ (num' / den').log2 := by
    by_cases hzero : num / den = 0
    · simp [hzero]
    · have hzero' : num' / den' ≠ 0 := fun h => hzero (Nat.le_zero.1 (h ▸ hquotient))
      exact (Nat.le_log2 hzero').2 (Nat.le_trans (Nat.log2_self_le hzero) hquotient)
  by_cases hplaces : ulpExponent (num / den) = ulpExponent (num' / den')
  · unfold roundUnits
    simp only [Nat.pow_eq]
    rw [hplaces]
    refine Nat.mul_le_mul_right _ (divNearest_mono ?_ ?_ ?_)
    · exact Nat.mul_pos hden (Nat.two_pow_pos _)
    · exact Nat.mul_pos hden' (Nat.two_pow_pos _)
    · rw [← Nat.mul_assoc, ← Nat.mul_assoc]
      exact Nat.mul_le_mul_right _ h
  · -- The larger ratio loses more places, so its first bit lies above the smaller one.
    have hlt : (num / den).log2 < (num' / den').log2 := by
      unfold ulpExponent at hplaces
      omega
    have hzero' : num' / den' ≠ 0 := by
      intro hzero
      rw [hzero] at hlt
      simp at hlt
    have hbelow : num / den < 2 ^ (num' / den').log2 :=
      Nat.lt_of_lt_of_le Nat.lt_log2_self (Nat.pow_le_pow_right (by decide) hlt)
    exact Nat.le_trans (roundUnits_le_two_pow hbelow)
      (two_pow_le_roundUnits (Nat.log2_self_le hzero'))

/-- How a ratio is written makes no difference. -/
theorem roundUnits_congr {num den num' den' : Nat} (hden : 0 < den) (hden' : 0 < den')
    (h : num * den' = num' * den) : roundUnits num den = roundUnits num' den' :=
  Nat.le_antisymm (roundUnits_mono hden hden' (Nat.le_of_eq h))
    (roundUnits_mono hden' hden (Nat.le_of_eq h.symm))

theorem log2_lt_of_le {m n k : Nat} (h : m ≤ n) (hn : n.log2 < k) : m.log2 < k := by
  by_cases hzero : m = 0
  · rw [hzero, Nat.log2_zero]
    exact Nat.zero_lt_of_lt hn
  · have hne : n ≠ 0 := fun hn => hzero (Nat.le_zero.1 (hn ▸ h))
    rw [Nat.log2_lt hzero]
    exact Nat.lt_of_le_of_lt h ((Nat.log2_lt hne).1 hn)

namespace Binary64

theorem exists_ofRatio {negative : Bool} {num den : Nat} (h : (roundUnits num den).log2 < 2098) :
    ∃ x, ofRatio negative num den = .finite x :=
  ⟨_, dif_pos h⟩

theorem ofRatio_congr (negative : Bool) {num den num' den' : Nat} (hden : 0 < den) (hden' : 0 < den')
    (h : num * den' = num' * den) : ofRatio negative num den = ofRatio negative num' den' := by
  unfold ofRatio
  simp only [roundUnits_congr hden hden' h]

end Binary64

/-! ### Numbers that need no rounding -/

/-- A number that a floating-point number can have is kept. -/
theorem Representable.roundUnits_mul {units den : Nat} (h : Representable units) (hden : 0 < den) :
    roundUnits (units * den) den = units := by
  obtain ⟨k, hk⟩ := h.ulp_dvd
  have hquotient : units * den / den = units := Nat.mul_div_cancel _ hden
  have hmultiple : units * den = k * (den * 2 ^ (units.log2 - 52)) := by
    rw [Nat.pow_eq] at hk
    calc units * den = 2 ^ (units.log2 - 52) * k * den := by rw [← hk]
      _ = k * (den * 2 ^ (units.log2 - 52)) := by ring
  unfold roundUnits ulpExponent
  simp only [hquotient, Nat.pow_eq]
  rw [hmultiple, divNearest_mul_self _ (Nat.mul_pos hden (Nat.two_pow_pos _)), Nat.mul_comm,
    ← Nat.pow_eq, ← hk]

namespace Representable

variable {units e : Nat} (h : Representable units)
include h

/-- The last of the 53 significant bits says of what a number is a multiple. -/
theorem two_pow_dvd (hle : 2 ^ (e + 52) ≤ units) : 2 ^ e ∣ units := by
  have hne : units ≠ 0 := Nat.pos_iff_ne_zero.1 (Nat.lt_of_lt_of_le (Nat.two_pow_pos _) hle)
  have hlog := (Nat.le_log2 hne).2 hle
  exact Nat.dvd_trans (Nat.pow_dvd_pow 2 (by omega)) h.ulp_dvd

/-- A number is at least one place above the power of two that it exceeds. -/
theorem two_pow_add_le (hlt : 2 ^ (e + 52) < units) : 2 ^ (e + 52) + 2 ^ e ≤ units := by
  have hpower : 2 ^ e ∣ 2 ^ (e + 52) := Nat.pow_dvd_pow 2 (Nat.le_add_right e 52)
  have hrest := Nat.le_of_dvd (Nat.sub_pos_of_lt hlt)
    (Nat.dvd_sub (h.two_pow_dvd (Nat.le_of_lt hlt)) hpower)
  omega

/-- A number is at least one place below the power of two that exceeds it. -/
theorem add_le_two_pow (hlt : units < 2 ^ (e + 53)) : units + 2 ^ e ≤ 2 ^ (e + 53) := by
  rcases Nat.lt_or_ge units (2 ^ (e + 52)) with hsmall | hlarge
  · have hle : 2 ^ e ≤ 2 ^ (e + 52) := Nat.pow_le_pow_right (by decide) (Nat.le_add_right e 52)
    rw [show e + 53 = e + 52 + 1 from rfl, Nat.pow_succ]
    omega
  · have hpower : 2 ^ e ∣ 2 ^ (e + 53) := Nat.pow_dvd_pow 2 (Nat.le_add_right e 53)
    have hrest := Nat.le_of_dvd (Nat.sub_pos_of_lt hlt)
      (Nat.dvd_sub hpower (h.two_pow_dvd hlarge))
    omega

/-- A number that a ratio does not exceed by one part in `2 ^ 54` is a multiple of the place at which the
ratio is rounded. -/
theorem two_pow_ulpExponent_dvd {num den : Nat} (hden : 0 < den)
    (habove : num * 2 ^ 54 < units * den * 2 ^ 54 + units * den) :
    2 ^ ulpExponent (num / den) ∣ units := by
  have hquotient : num / den * den ≤ num := Nat.div_mul_le_self num den
  cases hplace : ulpExponent (num / den) with
  | zero => exact Nat.one_dvd _
  | succ e =>
    refine h.two_pow_dvd ?_
    by_contra hle
    -- Else the number would be a whole place below a power of two that the ratio reaches.
    have hlt : units < 2 ^ (e + 53) := Nat.not_le.1 hle
    have hlog : e + 53 ≤ (num / den).log2 := by
      unfold ulpExponent at hplace
      omega
    have hne : num / den ≠ 0 := by
      rintro hzero
      rw [hzero] at hlog
      simp at hlog
    have hroom := Nat.mul_le_mul_right den
      (Nat.le_trans (h.add_le_two_pow hlt) ((Nat.le_log2 hne).1 hlog))
    have hsmall := Nat.mul_lt_mul_of_pos_right hlt hden
    rw [Nat.add_mul] at hroom
    rw [Nat.pow_add, Nat.mul_right_comm] at hsmall
    omega

/-- A number that exceeds a ratio by less than one part in `2 ^ 54` has at most 53 bits before the place
at which the ratio is rounded. -/
theorem le_two_pow_ulpExponent {num den : Nat} (hden : 0 < den)
    (hbelow : units * den * 2 ^ 54 < num * 2 ^ 54 + units * den) :
    units ≤ 2 ^ (ulpExponent (num / den) + 53) := by
  by_contra hle
  obtain ⟨e, he⟩ : ∃ e, ulpExponent (num / den) = e := ⟨_, rfl⟩
  rw [he] at hle
  -- Else the number would be two places above a power of two that the ratio does not reach.
  have hlarge : 2 ^ (e + 1 + 52) < units := Nat.not_le.1 hle
  have hlog : (num / den).log2 < e + 53 := by
    unfold ulpExponent at he
    omega
  have hroom := Nat.mul_le_mul_right den (h.two_pow_add_le hlarge)
  have hnum : num < 2 ^ (e + 53) * den := by
    rw [← Nat.div_lt_iff_lt_mul hden]
    exact Nat.lt_of_lt_of_le Nat.lt_log2_self (Nat.pow_le_pow_right (by decide) hlog)
  rw [Nat.add_mul, Nat.pow_add 2 (e + 1), Nat.pow_succ, Nat.mul_right_comm _ (2 ^ 52),
    Nat.mul_right_comm _ 2] at hroom
  rw [Nat.pow_add, Nat.mul_right_comm] at hnum
  omega

/-- A ratio that differs from a number by less than one part in `2 ^ 54` is rounded to it. -/
theorem roundUnits_of_near {num den : Nat} (hden : 0 < den)
    (hbelow : units * den * 2 ^ 54 < num * 2 ^ 54 + units * den)
    (habove : num * 2 ^ 54 < units * den * 2 ^ 54 + units * den) :
    roundUnits num den = units := by
  have hbits := Nat.mul_le_mul_right den (h.le_two_pow_ulpExponent hden hbelow)
  have hdvd := h.two_pow_ulpExponent_dvd hden habove
  unfold roundUnits
  simp only [Nat.pow_eq]
  generalize ulpExponent (num / den) = e at hbits hdvd ⊢
  obtain ⟨k, rfl⟩ := hdvd
  rw [Nat.pow_add, Nat.mul_right_comm (2 ^ e) (2 ^ 53)] at hbits
  have hplaces : k * (den * 2 ^ e) = 2 ^ e * k * den := by ring
  have hround : divNearest num (den * 2 ^ e) = k := by
    refine divNearest_eq_of_near (Nat.mul_pos hden (Nat.two_pow_pos e)) ?_ ?_
    · rw [hplaces, Nat.mul_comm den]
      omega
    · rw [hplaces, Nat.mul_comm den]
      omega
  rw [hround, Nat.mul_comm]

end Representable

/-- What is less than half a unit is rounded to none. -/
theorem roundUnits_eq_zero {num den : Nat} (h : 2 * num < den) : roundUnits num den = 0 := by
  have hquotient : num / den = 0 := Nat.div_eq_of_lt (by omega)
  have hremainder : num % den = num := Nat.mod_eq_of_lt (by omega)
  unfold roundUnits ulpExponent divNearest
  simp [hquotient, hremainder, h]

end LooseRecords
