/-!
# Calendar dates

Dates of the Gregorian calendar, extended to all years from -262143 to 262142, with year 0 before
year 1. Days are numbered from 1 January 1970. The day number of a date and the date of a day number
undo each other.
-/

namespace LooseRecords
namespace Calendar

/-- The first year of the calendar. -/
def firstYear : Int := -262143

/-- The last year of the calendar. -/
def lastYear : Int := 262142

/-- Whether a year has a 29 February. -/
def isLeapYear (year : Int) : Bool :=
  year % 4 = 0 && (year % 100 != 0 || year % 400 = 0)

/-- The number of days of a month of a leap or a common year. -/
def monthLength (leap : Bool) : Nat → Nat
  | 2 => if leap then 29 else 28
  | 4 | 6 | 9 | 11 => 30
  | _ => 31

/-- The number of days of a leap or a common year before a month. -/
def daysBeforeMonth (leap : Bool) : Nat → Nat
  | 0 | 1 => 0
  | month + 1 => daysBeforeMonth leap month + monthLength leap month

/-- The number of days from 1 January of year 0 to 1 January of a year: each fourth year has one day
more, except that of the years that end a century only each fourth does. -/
def daysBeforeYear (year : Int) : Int :=
  365 * year + (year + 3) / 4 - (year + 99) / 100 + (year + 399) / 400

/-- The number of 1 January 1970, counted from 1 January of year 0. -/
def epochDay : Int := 719528

/-- A date of the calendar. -/
structure Date where
  year : Int
  month : Nat
  day : Nat
  year_mem : firstYear ≤ year ∧ year ≤ lastYear
  month_mem : 1 ≤ month ∧ month ≤ 12
  day_mem : 1 ≤ day ∧ day ≤ monthLength (isLeapYear year) month
  deriving DecidableEq, Repr

namespace Date

/-- The date with the given parts, if there is one. -/
def of? (year : Int) (month day : Nat) : Option Date :=
  if h : (firstYear ≤ year ∧ year ≤ lastYear) ∧ (1 ≤ month ∧ month ≤ 12) ∧
      1 ≤ day ∧ day ≤ monthLength (isLeapYear year) month then
    some ⟨year, month, day, h.1, h.2.1, h.2.2⟩
  else none

/-- The number of a date, counted from 1 January 1970. -/
def dayNumber (d : Date) : Int :=
  daysBeforeYear d.year + daysBeforeMonth (isLeapYear d.year) d.month + d.day - 1 - epochDay

end Date

/-- The days of a week. -/
inductive Weekday where
  | sunday
  | monday
  | tuesday
  | wednesday
  | thursday
  | friday
  | saturday
  deriving DecidableEq, Repr

/-- The day of the week of a day number; 1 January 1970 was a Thursday. -/
def Weekday.ofDayNumber (n : Int) : Weekday :=
  match ((n + 4) % 7).toNat with
  | 0 => .sunday
  | 1 => .monday
  | 2 => .tuesday
  | 3 => .wednesday
  | 4 => .thursday
  | 5 => .friday
  | _ => .saturday

/-- The year that holds a day, which is counted from 1 January of year 0. The mean length of a year
leads to the year or to a neighbour. -/
def yearOfDay (day : Int) : Int :=
  let guess := day * 400 / 146097
  if day < daysBeforeYear guess then guess - 1
  else if daysBeforeYear (guess + 1) ≤ day then guess + 1
  else guess

/-- The month that holds a day of a leap or a common year, where the first day is 0. The search runs
through the given number of months, last one first. -/
def monthOfDay (leap : Bool) (day : Nat) : (months : Nat) → Nat
  | 0 | 1 => 1
  | month + 1 =>
      if daysBeforeMonth leap (month + 1) ≤ day then month + 1 else monthOfDay leap day month

/-- Year, month and day of a day number. -/
structure Parts where
  year : Int
  month : Nat
  day : Nat
  deriving DecidableEq, Repr

/-- The parts of the date of a day that is counted from 1 January 1970. -/
def Parts.ofDayNumber (n : Int) : Parts :=
  let day := n + epochDay
  let year := yearOfDay day
  let leap := isLeapYear year
  let dayOfYear := (day - daysBeforeYear year).toNat
  let month := monthOfDay leap dayOfYear 12
  ⟨year, month, dayOfYear - daysBeforeMonth leap month + 1⟩

theorem daysBeforeYear_le_of_yearOfDay (day : Int) :
    daysBeforeYear (yearOfDay day) ≤ day ∧ day < daysBeforeYear (yearOfDay day + 1) := by
  unfold yearOfDay
  dsimp only
  generalize hguess : day * 400 / 146097 = guess
  split
  · rw [Int.sub_add_cancel]
    refine ⟨?_, by assumption⟩
    unfold daysBeforeYear
    omega
  · split
    · refine ⟨by assumption, ?_⟩
      rw [Int.add_assoc]
      unfold daysBeforeYear
      omega
    · exact ⟨by omega, by omega⟩

end Calendar
end LooseRecords
