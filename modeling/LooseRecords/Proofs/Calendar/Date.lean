import LooseRecords.Calendar.Date

/-!
# Day numbers and dates undo each other

The parts of a day number make a date, as long as its year belongs to the calendar, and the number
of this date is the day number again (`Date.exists_of?_ofDayNumber`).  Both come down to three
facts: a year is as long as its months together, the year found for a day holds it, and so does the
month.
-/

namespace LooseRecords
namespace Calendar

/-! ### Years -/

/-- The number of days of a year. -/
def yearLength (leap : Bool) : Nat :=
  if leap then 366 else 365

/-- The years follow one another without a gap. -/
theorem daysBeforeYear_add_one (year : Int) :
    daysBeforeYear (year + 1) = daysBeforeYear year + yearLength (isLeapYear year) := by
  have hleap : isLeapYear year = true ↔ year % 4 = 0 ∧ (year % 100 ≠ 0 ∨ year % 400 = 0) := by
    simp [isLeapYear]
  unfold daysBeforeYear yearLength
  by_cases h : isLeapYear year = true
  · rw [if_pos h]
    rw [hleap] at h
    omega
  · rw [if_neg h]
    rw [hleap] at h
    omega

/-- Later years start later. -/
theorem daysBeforeYear_le {year later : Int} (h : year ≤ later) :
    daysBeforeYear year ≤ daysBeforeYear later := by
  rcases Int.lt_or_eq_of_le h with hlt | rfl
  · unfold daysBeforeYear
    omega
  · exact Int.le_refl _

/-- A day lies in a range of years exactly when it lies between the first day of the first year and
the first day after the last one. -/
theorem yearOfDay_mem_iff {first last day : Int} :
    first ≤ yearOfDay day ∧ yearOfDay day ≤ last ↔
      daysBeforeYear first ≤ day ∧ day < daysBeforeYear (last + 1) := by
  obtain ⟨hstart, hend⟩ := daysBeforeYear_le_of_yearOfDay day
  constructor
  · rintro ⟨hfirst, hlast⟩
    have hle := daysBeforeYear_le hfirst
    have hlt := daysBeforeYear_le (Int.add_le_add_right hlast 1)
    exact ⟨Int.le_trans hle hstart, Int.lt_of_lt_of_le hend hlt⟩
  · rintro ⟨hfirst, hlast⟩
    constructor
    · apply Int.not_lt.1
      intro hlt
      have := daysBeforeYear_le (Int.add_one_le_of_lt hlt)
      omega
    · apply Int.not_lt.1
      intro hlt
      have := daysBeforeYear_le (Int.add_one_le_of_lt hlt)
      omega

/-! ### Months -/

/-- The months of a year fill it. -/
theorem daysBeforeMonth_thirteen (leap : Bool) : daysBeforeMonth leap 13 = yearLength leap := by
  cases leap <;> rfl

theorem daysBeforeMonth_add_one (leap : Bool) {month : Nat} (h : 1 ≤ month) :
    daysBeforeMonth leap (month + 1) = daysBeforeMonth leap month + monthLength leap month := by
  obtain ⟨month, rfl⟩ := Nat.exists_eq_add_of_le' h
  rfl

theorem monthLength_le (leap : Bool) (month : Nat) : monthLength leap month ≤ 31 := by
  unfold monthLength
  split
  · split <;> decide
  all_goals decide

/-- The month that is found for a day of the first months holds this day. -/
theorem monthOfDay_spec (leap : Bool) (day months : Nat)
    (hday : day < daysBeforeMonth leap (months + 1)) :
    1 ≤ monthOfDay leap day months ∧ monthOfDay leap day months ≤ months ∧
      daysBeforeMonth leap (monthOfDay leap day months) ≤ day ∧
      day < daysBeforeMonth leap (monthOfDay leap day months + 1) := by
  induction months with
  | zero => exact absurd hday (Nat.not_lt_zero day)
  | succ month ih =>
    cases month with
    | zero => exact ⟨Nat.le_refl 1, Nat.le_refl 1, Nat.zero_le day, hday⟩
    | succ month =>
      have hstep : monthOfDay leap day (month + 2) =
          if daysBeforeMonth leap (month + 2) ≤ day then month + 2
          else monthOfDay leap day (month + 1) := by
        simp only [monthOfDay]
      rw [hstep]
      split
      · next hstart => exact ⟨by omega, Nat.le_refl _, hstart, hday⟩
      · next hstart =>
        obtain ⟨hfirst, hlast, hbounds⟩ := ih (Nat.lt_of_not_le hstart)
        exact ⟨hfirst, Nat.le_succ_of_le hlast, hbounds⟩

/-! ### Parts -/

/-- The parts of a day number are those of a date. -/
theorem Parts.ofDayNumber_valid (n : Int) :
    let p := Parts.ofDayNumber n
    (1 ≤ p.month ∧ p.month ≤ 12) ∧ (1 ≤ p.day ∧ p.day ≤ monthLength (isLeapYear p.year) p.month) ∧
      daysBeforeYear p.year + daysBeforeMonth (isLeapYear p.year) p.month + p.day - 1 - epochDay =
        n := by
  intro p
  let year := yearOfDay (n + epochDay)
  let leap := isLeapYear year
  let dayOfYear := (n + epochDay - daysBeforeYear year).toNat
  let month := monthOfDay leap dayOfYear 12
  have hp : p = ⟨year, month, dayOfYear - daysBeforeMonth leap month + 1⟩ := rfl
  obtain ⟨hstart, hend⟩ : daysBeforeYear year ≤ n + epochDay ∧
      n + epochDay < daysBeforeYear (year + 1) := daysBeforeYear_le_of_yearOfDay (n + epochDay)
  have hlength : daysBeforeYear (year + 1) = daysBeforeYear year + yearLength leap :=
    daysBeforeYear_add_one year
  have hdayOfYear : (dayOfYear : Int) = n + epochDay - daysBeforeYear year :=
    Int.toNat_of_nonneg (by omega)
  have hday : dayOfYear < daysBeforeMonth leap 13 := by
    rw [daysBeforeMonth_thirteen]
    omega
  obtain ⟨hfirst, hlast, hmonth, hnext⟩ : 1 ≤ month ∧ month ≤ 12 ∧
      daysBeforeMonth leap month ≤ dayOfYear ∧ dayOfYear < daysBeforeMonth leap (month + 1) :=
    monthOfDay_spec leap dayOfYear 12 hday
  rw [daysBeforeMonth_add_one leap hfirst] at hnext
  rw [hp]
  refine ⟨⟨hfirst, hlast⟩, ⟨Nat.le_add_left 1 _, ?_⟩, ?_⟩
  · show dayOfYear - daysBeforeMonth leap month + 1 ≤ monthLength leap month
    omega
  · show daysBeforeYear year + (daysBeforeMonth leap month : Int) +
      ((dayOfYear - daysBeforeMonth leap month + 1 : Nat) : Int) - 1 - epochDay = n
    omega

/-- The parts of a day number make a date that has this number, if their year belongs to the
calendar. -/
theorem Date.exists_of?_ofDayNumber {n : Int}
    (hyear : firstYear ≤ (Parts.ofDayNumber n).year ∧ (Parts.ofDayNumber n).year ≤ lastYear) :
    ∃ d, Date.of? (Parts.ofDayNumber n).year (Parts.ofDayNumber n).month
      (Parts.ofDayNumber n).day = some d ∧ d.dayNumber = n := by
  obtain ⟨hmonth, hday, hnumber⟩ := Parts.ofDayNumber_valid n
  exact ⟨_, dif_pos ⟨hyear, hmonth, hday⟩, hnumber⟩

end Calendar
end LooseRecords
