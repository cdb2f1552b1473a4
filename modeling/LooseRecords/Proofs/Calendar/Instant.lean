import LooseRecords.Calendar.Reading
import LooseRecords.Proofs.Calendar.Date
import LooseRecords.Proofs.Calendar.Scan

/-!
# Which written instants are read back

An instant of the years 0 to 9999 is written as a timestamp, and reading the text gives the instant
back, a leap second kept as such (`Instant.ofText?_text`).  The text of any other instant starts
with a sign.  No timestamp and no date of a mail message does so, and the patterns, which know years
with a sign, know no `Z` at the end: such a text is not read at all.
-/

namespace LooseRecords
namespace Instant

open Calendar

/-- The year of an instant, in universal time. -/
def year (t : Instant) : Int :=
  (Parts.ofDayNumber (t.second / 86400)).year

/-- The seconds of an instant since midnight, in universal time. -/
def secondOfDay (t : Instant) : Nat :=
  (t.second % 86400).toNat

theorem natCast_secondOfDay (t : Instant) : (t.secondOfDay : Int) = t.second % 86400 :=
  Int.toNat_of_nonneg (Int.emod_nonneg _ (by decide))

theorem secondOfDay_lt (t : Instant) : t.secondOfDay < 86400 := by
  have := t.natCast_secondOfDay
  omega

/-- The year of an instant belongs to the calendar. -/
theorem year_mem (t : Instant) : firstYear ≤ t.year ∧ t.year ≤ lastYear := by
  have hrange := t.inRange
  have hfirst : daysBeforeYear firstYear = -95745764 := by decide
  have hlast : daysBeforeYear (lastYear + 1) = 95745765 := by decide
  show firstYear ≤ yearOfDay (t.second / 86400 + epochDay) ∧
    yearOfDay (t.second / 86400 + epochDay) ≤ lastYear
  rw [yearOfDay_mem_iff, hfirst, hlast]
  unfold epochDay
  omega

/-- The years 0 to 9999 in seconds since the start of 1970. -/
theorem year_mem_iff_second (t : Instant) :
    0 ≤ t.year ∧ t.year ≤ 9999 ↔ -62167219200 ≤ t.second ∧ t.second < 253402300800 := by
  have hfirst : daysBeforeYear 0 = 0 := by decide
  have hlast : daysBeforeYear (9999 + 1) = 3652425 := by decide
  show 0 ≤ yearOfDay (t.second / 86400 + epochDay) ∧
    yearOfDay (t.second / 86400 + epochDay) ≤ 9999 ↔ _
  rw [yearOfDay_mem_iff, hfirst, hlast]
  unfold epochDay
  omega

/-! ### Dates and times of day -/

/-- The time of day of an instant.  A leap second is the only second 60, and counts as the second
before it. -/
theorem exists_timeOfDay (t : Instant) :
    ∃ time, TimeOfDay.of? (t.secondOfDay / 3600) (t.secondOfDay / 60 % 60)
        (t.secondOfDay % 60 + if t.leap then 1 else 0) t.milli = some time ∧
      time.hour * 60 + time.minute = t.secondOfDay / 60 ∧
      time.wholeSecond = t.secondOfDay % 60 ∧ time.leap = t.leap ∧ time.milli = t.milli := by
  have hday := t.secondOfDay_lt
  have hhour : t.secondOfDay / 3600 < 24 := by omega
  have hminute : t.secondOfDay / 60 % 60 < 60 := Nat.mod_lt _ (by decide)
  have hsum : t.secondOfDay / 3600 * 60 + t.secondOfDay / 60 % 60 = t.secondOfDay / 60 := by omega
  cases hleap : t.leap with
  | true =>
    have hlast : t.secondOfDay % 60 = 59 := by
      have := t.leap_ends_minute hleap
      have := t.natCast_secondOfDay
      omega
    rw [hlast]
    exact ⟨_, dif_pos ⟨hhour, hminute, Nat.le_refl 60, t.milli_lt⟩, hsum, rfl, rfl, rfl⟩
  | false =>
    have hsecond : t.secondOfDay % 60 < 60 := Nat.mod_lt _ (by decide)
    refine ⟨_, dif_pos ⟨hhour, hminute, Nat.le_of_lt hsecond, t.milli_lt⟩, hsum, ?_, ?_, rfl⟩
    · exact if_neg (Nat.ne_of_lt hsecond)
    · exact decide_eq_false (Nat.ne_of_lt hsecond)

/-- Date and time of day of an instant make the instant again. -/
theorem ofLocal?_eq_some (t : Instant) {d : Date} {time : TimeOfDay}
    (hd : d.dayNumber = t.second / 86400)
    (hminute : time.hour * 60 + time.minute = t.secondOfDay / 60)
    (hsecond : time.wholeSecond = t.secondOfDay % 60) (hleap : time.leap = t.leap)
    (hmilli : time.milli = t.milli) : ofLocal? d time 0 = some t := by
  have hday := t.natCast_secondOfDay
  have hsum : (t.second / 86400 * 1440 + ((t.secondOfDay / 60 : Nat) : Int) - 0) * 60 +
      ((t.secondOfDay % 60 : Nat) : Int) = t.second := by
    omega
  unfold ofLocal?
  simp only [hd, hminute, hsecond, hleap, hmilli, hsum]
  exact dif_pos t.inRange

/-! ### Texts -/

theorem scanFixed_twoDigits {n : Nat} (h : n < 100) (rest : List Char) :
    scanFixed 2 (twoDigits n ++ rest) = some (n, rest) :=
  scanFixed_padLeft (by decide) h rest

/-- The text of an instant from its first character on. -/
theorem chars_eq (t : Instant) :
    let p := Parts.ofDayNumber (t.second / 86400)
    t.chars = yearChars t.year ++ '-' :: (twoDigits p.month ++ '-' :: (twoDigits p.day ++
      'T' :: (twoDigits (t.secondOfDay / 3600) ++ ':' :: (twoDigits (t.secondOfDay / 60 % 60) ++
      ':' :: (twoDigits (t.secondOfDay % 60 + if t.leap then 1 else 0) ++
      '.' :: (Digits.padLeft 3 (Digits.decimal t.milli) ++ ['Z'])))))) := by
  simp [chars, year, secondOfDay]

theorem yearChars_of_mem {year : Int} (h : 0 ≤ year ∧ year ≤ 9999) :
    yearChars year = Digits.padLeft 4 (Digits.decimal year.natAbs) := by
  unfold yearChars
  dsimp only
  rw [if_neg (by omega), if_neg (by omega)]

/-- Outside the years 0 to 9999 the text starts with a sign. -/
theorem exists_chars_eq_sign {t : Instant} (h : ¬(0 ≤ t.year ∧ t.year ≤ 9999)) :
    ∃ sign rest, (sign = '-' ∨ sign = '+') ∧ t.chars = sign :: rest := by
  rw [chars_eq]
  unfold yearChars
  dsimp only
  rcases Int.lt_or_le t.year 0 with hneg | hnonneg
  · rw [if_pos hneg]
    exact ⟨'-', _, .inl rfl, rfl⟩
  · rw [if_neg (Int.not_lt.2 hnonneg), if_pos (by omega)]
    exact ⟨'+', _, .inr rfl, rfl⟩

theorem mem_chars (t : Instant) : 'Z' ∈ t.chars := by
  unfold chars
  exact List.mem_append_right _ List.mem_cons_self

/-- A year is written with at least one character and without blanks. -/
theorem yearChars_spec (year : Int) :
    yearChars year ≠ [] ∧ ∀ c ∈ yearChars year, Text.isBlank c = false := by
  have hdigits : ∀ c ∈ Digits.padLeft 4 (Digits.decimal year.natAbs), Text.isBlank c = false :=
    fun c hc => Digits.isBlank_of_isDigit (Digits.isDigit_of_mem_padLeft_decimal hc)
  unfold yearChars
  dsimp only
  split
  · exact ⟨List.cons_ne_nil _ _, List.forall_mem_cons.2 ⟨by decide, hdigits⟩⟩
  · split
    · exact ⟨List.cons_ne_nil _ _, List.forall_mem_cons.2 ⟨by decide, hdigits⟩⟩
    · exact ⟨Digits.padLeft_decimal_ne_nil _ _, hdigits⟩

/-- The text of an instant has no blanks at its ends. -/
theorem trimChars_chars (t : Instant) : Text.trimChars t.chars = t.chars := by
  apply trimChars_eq_self
  · obtain ⟨hne, hblank⟩ := yearChars_spec t.year
    obtain ⟨first, rest, hfirst⟩ := List.exists_cons_of_ne_nil hne
    rw [chars_eq, hfirst]
    intro c hc
    cases hc
    exact hblank first (hfirst ▸ List.mem_cons_self)
  · unfold chars
    rw [List.getLast?_concat]
    intro c hc
    cases hc
    decide

/-! ### Reading -/

/-- The text of an instant of the years 0 to 9999 is its timestamp. -/
theorem readTimestamp?_chars {t : Instant} (h : 0 ≤ t.year ∧ t.year ≤ 9999) :
    readTimestamp? t.chars = some t := by
  obtain ⟨d, hd, hnumber⟩ := Date.exists_of?_ofDayNumber t.year_mem
  obtain ⟨time, htime, hminute, hsecond, hleap, hmilli⟩ := t.exists_timeOfDay
  have hinstant : ofLocal? d time 0 = some t :=
    t.ofLocal?_eq_some hnumber hminute hsecond hleap hmilli
  -- Each part is read by a reader of its width.
  obtain ⟨hmonth, hday, -⟩ := Parts.ofDayNumber_valid (t.second / 86400)
  have hlength := monthLength_le (isLeapYear (Parts.ofDayNumber (t.second / 86400)).year)
    (Parts.ofDayNumber (t.second / 86400)).month
  have hsecondOfDay := t.secondOfDay_lt
  have hreadYear : ∀ rest, scanFixed 4 (Digits.padLeft 4 (Digits.decimal t.year.natAbs) ++ rest) =
      some (t.year.natAbs, rest) := scanFixed_padLeft (by decide) (by omega)
  have hyear : ((t.year.natAbs : Nat) : Int) = t.year := Int.natAbs_of_nonneg h.1
  have hreadMonth := scanFixed_twoDigits (n := (Parts.ofDayNumber (t.second / 86400)).month)
    (by omega)
  have hreadDay := scanFixed_twoDigits (n := (Parts.ofDayNumber (t.second / 86400)).day)
    (by omega)
  have hreadHour := scanFixed_twoDigits (n := t.secondOfDay / 3600) (by omega)
  have hreadMinute := scanFixed_twoDigits (n := t.secondOfDay / 60 % 60) (by omega)
  have hreadSecond := scanFixed_twoDigits (n := t.secondOfDay % 60 + if t.leap then 1 else 0)
    (by split <;> omega)
  have hend : ∀ c ∈ ['Z'].head?, Digits.isDigit c = false := by
    rintro _ ⟨⟩
    rfl
  have hreadMilli : scanFraction ('.' :: (Digits.padLeft 3 (Digits.decimal t.milli) ++ ['Z'])) =
      some (t.milli, ['Z']) := by
    simpa using scanFraction_padLeft (Nat.le_refl 3) t.milli_lt hend
  rw [chars_eq, yearChars_of_mem h]
  refine Option.bind_eq_some_iff.2 ⟨_, hreadYear _, ?_⟩
  refine Option.bind_eq_some_iff.2 ⟨_, rfl, ?_⟩
  refine Option.bind_eq_some_iff.2 ⟨_, hreadMonth _, ?_⟩
  refine Option.bind_eq_some_iff.2 ⟨_, rfl, ?_⟩
  refine Option.bind_eq_some_iff.2 ⟨_, hreadDay _, ?_⟩
  refine Option.bind_eq_some_iff.2 ⟨_, rfl, ?_⟩
  refine Option.bind_eq_some_iff.2 ⟨_, hreadHour _, ?_⟩
  refine Option.bind_eq_some_iff.2 ⟨_, rfl, ?_⟩
  refine Option.bind_eq_some_iff.2 ⟨_, hreadMinute _, ?_⟩
  refine Option.bind_eq_some_iff.2 ⟨_, rfl, ?_⟩
  refine Option.bind_eq_some_iff.2 ⟨_, hreadSecond _, ?_⟩
  refine Option.bind_eq_some_iff.2 ⟨_, hreadMilli, ?_⟩
  refine Option.bind_eq_some_iff.2 ⟨_, rfl, ?_⟩
  refine (if_pos rfl).trans ?_
  rw [hyear]
  refine Option.bind_eq_some_iff.2 ⟨d, hd, ?_⟩
  exact Option.bind_eq_some_iff.2 ⟨time, htime, hinstant⟩

/-- Characters that start with a sign and have a `Z` are no date. -/
theorem ofTrimmed?_eq_none {sign : Char} {rest : List Char} (hsign : sign = '-' ∨ sign = '+')
    (hmem : 'Z' ∈ sign :: rest) : ofTrimmed? (sign :: rest) = none := by
  have htimestamp : readTimestamp? (sign :: rest) = none := by
    rcases hsign with rfl | rfl <;> rfl
  have hmail : readMailDate? (sign :: rest) = none := by
    rcases hsign with rfl | rfl <;> rfl
  have hpatterns :
      (dateTimePatterns ++ datePatterns).findSome? (·.read? (sign :: rest)) = none := by
    rw [List.findSome?_eq_none_iff]
    intro p hp
    have hitems : ∀ p ∈ dateTimePatterns ++ datePatterns, ∀ item ∈ p, item ≠ .char 'Z' := by
      decide
    exact Pattern.read?_eq_none_of_mem (hitems p hp) hmem
  unfold ofTrimmed?
  rw [htimestamp, hmail, hpatterns]
  rfl

/-- The text of an instant is read back exactly in the years 0 to 9999; elsewhere it is not read
at all. -/
theorem ofText?_text (t : Instant) :
    ofText? t.text = if 0 ≤ t.year ∧ t.year ≤ 9999 then some t else none := by
  unfold ofText? text
  rw [String.toList_ofList, trimChars_chars]
  split
  · next h =>
    unfold ofTrimmed?
    rw [readTimestamp?_chars h]
    rfl
  · next h =>
    obtain ⟨sign, rest, hsign, hchars⟩ := exists_chars_eq_sign h
    rw [hchars]
    exact ofTrimmed?_eq_none hsign (hchars ▸ t.mem_chars)

end Instant
end LooseRecords
