import LooseRecords.Calendar.Date
import LooseRecords.Number.Binary64
import LooseRecords.Text.Digits

/-!
# Instants

A point in time to the millisecond, in universal time. A minute may end in a leap second, which is
written as second 60: an instant within it is kept apart from those of the second that follows,
although both count the same milliseconds since 1970.
-/

namespace LooseRecords

/-- A point in time. `second` counts from the start of 1970; an instant within a leap second has the
second before it. -/
structure Instant where
  second : Int
  milli : Nat
  leap : Bool
  milli_lt : milli < 1000
  leap_ends_minute : leap = true → second % 60 = 59
  inRange : -8334601228800 ≤ second ∧ second ≤ 8210266876799
  deriving DecidableEq, Repr

namespace Calendar

/-- A time of day. Second 60 is a leap second, which any minute may have. -/
structure TimeOfDay where
  hour : Nat
  minute : Nat
  second : Nat
  milli : Nat
  hour_lt : hour < 24
  minute_lt : minute < 60
  second_le : second ≤ 60
  milli_lt : milli < 1000
  deriving DecidableEq, Repr

namespace TimeOfDay

/-- The time of day with the given parts, if there is one. -/
def of? (hour minute second milli : Nat) : Option TimeOfDay :=
  if h : hour < 24 ∧ minute < 60 ∧ second ≤ 60 ∧ milli < 1000 then
    some ⟨hour, minute, second, milli, h.1, h.2.1, h.2.2.1, h.2.2.2⟩
  else none

/-- Whether the time lies in a leap second. -/
def leap (t : TimeOfDay) : Bool :=
  t.second = 60

/-- The second within the minute, a leap second counted as the one before it. -/
def wholeSecond (t : TimeOfDay) : Nat :=
  if t.second = 60 then 59 else t.second

/-- The seconds since midnight. -/
def secondOfDay (t : TimeOfDay) : Nat :=
  (t.hour * 60 + t.minute) * 60 + t.wholeSecond

end TimeOfDay
end Calendar

namespace Instant

open Calendar

/-- The instant of a local date and time that is `offset` minutes ahead of universal time. -/
def ofLocal? (d : Date) (t : TimeOfDay) (offset : Int) : Option Instant :=
  let minute := d.dayNumber * 1440 + (t.hour * 60 + t.minute : Nat) - offset
  let second := minute * 60 + t.wholeSecond
  if inRange : -8334601228800 ≤ second ∧ second ≤ 8210266876799 then
    some ⟨second, t.milli, t.leap, t.milli_lt, by
      intro h
      have last : t.wholeSecond = 59 := by simp_all [TimeOfDay.leap, TimeOfDay.wholeSecond]
      omega, inRange⟩
  else none

/-- The milliseconds since the start of 1970. -/
def epochMillis (t : Instant) : Int :=
  t.second * 1000 + t.milli + (if t.leap then 1000 else 0)

/-- The instant with the given milliseconds since the start of 1970. -/
def ofEpochMillis? (n : Int) : Option Instant :=
  if h : -8334601228800 ≤ n / 1000 ∧ n / 1000 ≤ 8210266876799 then
    some ⟨n / 1000, (n % 1000).toNat, false, by omega, by simp, h⟩
  else none

/-- The instant with the given milliseconds since the start of 1970; a fraction is dropped. -/
def ofEpochNumber? (x : Binary64) : Option Instant :=
  x.toWord?.bind fun n => ofEpochMillis? n.val

/-- A year has four digits; outside the years 0 to 9999 a sign and at least four digits. -/
def yearChars (year : Int) : List Char :=
  let digits := Digits.padLeft 4 (Digits.decimal year.natAbs)
  if year < 0 then '-' :: digits else if 9999 < year then '+' :: digits else digits

/-- A number of two digits. -/
def twoDigits (n : Nat) : List Char :=
  Digits.padLeft 2 (Digits.decimal n)

/-- The text of an instant: date and time to the millisecond, in universal time. -/
def chars (t : Instant) : List Char :=
  let date := Parts.ofDayNumber (t.second / 86400)
  let secondOfDay := (t.second % 86400).toNat
  let second := secondOfDay % 60 + (if t.leap then 1 else 0)
  yearChars date.year ++ '-' :: twoDigits date.month ++ '-' :: twoDigits date.day ++
    'T' :: twoDigits (secondOfDay / 3600) ++ ':' :: twoDigits (secondOfDay / 60 % 60) ++
    ':' :: twoDigits second ++ '.' :: Digits.padLeft 3 (Digits.decimal t.milli) ++ ['Z']

/-- The text of an instant. -/
def text (t : Instant) : String :=
  String.ofList t.chars

end Instant
end LooseRecords
