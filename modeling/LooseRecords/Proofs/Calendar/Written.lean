import LooseRecords.Proofs.Calendar.Instant
import Mathlib.Data.List.Chain
import Mathlib.Tactic.IntervalCases

/-!
# Dates as patterns write them

A pattern can be turned round: where it reads a number it writes one, with leading zeros, a blank of
it is one space, and a month has its name in full or cut after three letters.  What a pattern writes
it reads back (`Pattern.read?_write`), which is the moment cut to the parts that the pattern has and
to the millisecond.

Reading is more lenient than writing, so a part is read back only where what follows cannot be taken
for more of it: no blank after a blank, no letter after a name, no digit after a fraction
(`PatternItem.mayPrecede`).
-/

namespace LooseRecords
namespace Calendar

/-- A date of a year with at most four digits and a time of day to the nanosecond, in universal time
and outside of leap seconds. -/
structure Moment where
  date : Date
  hour : Nat
  minute : Nat
  second : Nat
  nano : Nat
  year_mem : 0 ≤ date.year ∧ date.year ≤ 9999
  hour_lt : hour < 24
  minute_lt : minute < 60
  second_lt : second < 60
  nano_lt : nano < 1000000000

/-! ### Instants -/

/-- The days of the years 0 to 9999 lie between these numbers. -/
theorem Date.dayNumber_mem {d : Date} (h : 0 ≤ d.year ∧ d.year ≤ 9999) :
    -719528 ≤ d.dayNumber ∧ d.dayNumber ≤ 2932897 := by
  have hfirst : daysBeforeYear 0 = 0 := by decide
  have hlast : daysBeforeYear 9999 = 3652060 := by decide
  have hstart := daysBeforeYear_le h.1
  have hend := daysBeforeYear_le h.2
  have hmonths : ∀ leap, ∀ month ≤ 12, daysBeforeMonth leap month ≤ 335 := by decide
  have hmonth := hmonths (isLeapYear d.year) d.month d.month_mem.2
  have hday := d.day_mem
  have hlength := monthLength_le (isLeapYear d.year) d.month
  unfold Date.dayNumber epochDay
  omega

theorem Date.of?_self (d : Date) : Date.of? d.year d.month d.day = some d :=
  dif_pos ⟨d.year_mem, d.month_mem, d.day_mem⟩

namespace Moment

/-- The instant of a moment, which is kept to the millisecond. -/
def instant (m : Moment) : Instant where
  second := m.date.dayNumber * 86400 + ((m.hour * 60 + m.minute) * 60 + m.second : Nat)
  milli := m.nano / 1000000
  leap := false
  milli_lt := by
    have := m.nano_lt
    omega
  leap_ends_minute := by simp
  inRange := by
    have := m.date.dayNumber_mem m.year_mem
    have := m.hour_lt
    have := m.minute_lt
    have := m.second_lt
    omega

/-- A moment without the parts of its time of day that a pattern does not have. -/
def cut (m : Moment) (p : Pattern) : Moment where
  date := m.date
  hour := if .hour ∈ p then m.hour else 0
  minute := if .minute ∈ p then m.minute else 0
  second := if .second ∈ p then m.second else 0
  nano := if .fraction ∈ p then m.nano else 0
  year_mem := m.year_mem
  hour_lt := by
    split
    · exact m.hour_lt
    · decide
  minute_lt := by
    split
    · exact m.minute_lt
    · decide
  second_lt := by
    split
    · exact m.second_lt
    · decide
  nano_lt := by
    split
    · exact m.nano_lt
    · decide

/-- The numbers of a moment, the time of day to the millisecond. -/
def reading (m : Moment) : Reading :=
  ⟨m.date.year, m.date.month, m.date.day, m.hour, m.minute, m.second, m.nano / 1000000⟩

/-- The numbers of a moment make its instant. -/
theorem toInstant?_reading (m : Moment) : m.reading.toInstant? = some m.instant := by
  have hhour := m.hour_lt
  have hminute := m.minute_lt
  have hsecond := m.second_lt
  have hmilli : m.nano / 1000000 < 1000 := m.instant.milli_lt
  let time : TimeOfDay :=
    ⟨m.hour, m.minute, m.second, m.nano / 1000000, hhour, hminute, Nat.le_of_lt hsecond, hmilli⟩
  have htime : TimeOfDay.of? m.hour m.minute m.second (m.nano / 1000000) = some time :=
    dif_pos ⟨hhour, hminute, Nat.le_of_lt hsecond, hmilli⟩
  have hne : m.second ≠ 60 := Nat.ne_of_lt hsecond
  have hsecondOfDay : m.instant.secondOfDay = (m.hour * 60 + m.minute) * 60 + m.second := by
    have hday : m.instant.second = m.date.dayNumber * 86400 +
      ((m.hour * 60 + m.minute) * 60 + m.second : Nat) := rfl
    have := m.instant.natCast_secondOfDay
    omega
  have hdate : m.date.dayNumber = m.instant.second / 86400 := by
    show m.date.dayNumber =
      (m.date.dayNumber * 86400 + ((m.hour * 60 + m.minute) * 60 + m.second : Nat)) / 86400
    omega
  refine Option.bind_eq_some_iff.2 ⟨m.date, m.date.of?_self, ?_⟩
  refine Option.bind_eq_some_iff.2 ⟨time, htime, ?_⟩
  refine m.instant.ofLocal?_eq_some hdate ?_ ?_ (decide_eq_false hne) rfl
  · show m.hour * 60 + m.minute = m.instant.secondOfDay / 60
    omega
  · show (if m.second = 60 then 59 else m.second) = m.instant.secondOfDay % 60
    rw [if_neg hne]
    omega

end Moment

/-! ### Writing -/

/-- The forms of the name of a month. -/
inductive MonthForm where
  | full
  | short

/-- The name of a month. -/
def monthChars (form : MonthForm) (month : Nat) : List Char :=
  let (stem, ending) := monthNames.getD (month - 1) ([], [])
  match form with
  | .full => stem ++ ending
  | .short => stem

/-- A point and three, six or nine digits, the least number of them that loses nothing; a whole
second has no fraction. -/
def fractionChars (nano : Nat) : List Char :=
  if nano = 0 then []
  else if nano % 1000000 = 0 then '.' :: Digits.padLeft 3 (Digits.decimal (nano / 1000000))
  else if nano % 1000 = 0 then '.' :: Digits.padLeft 6 (Digits.decimal (nano / 1000))
  else '.' :: Digits.padLeft 9 (Digits.decimal nano)

/-- What a part of a pattern writes. -/
def PatternItem.write (form : MonthForm) (m : Moment) : PatternItem → List Char
  | .char c => [c]
  | .blank => [' ']
  | .year => Digits.padLeft 4 (Digits.decimal m.date.year.natAbs)
  | .month => Instant.twoDigits m.date.month
  | .monthName => monthChars form m.date.month
  | .day => Instant.twoDigits m.date.day
  | .hour => Instant.twoDigits m.hour
  | .minute => Instant.twoDigits m.minute
  | .second => Instant.twoDigits m.second
  | .fraction => fractionChars m.nano

/-- What a pattern writes. -/
def Pattern.write (p : Pattern) (form : MonthForm) (m : Moment) : List Char :=
  p.flatMap (·.write form m)

/-! ### Reading one part back -/

variable {form : MonthForm} {m : Moment}

/-- The name of a month does not start with a blank. -/
theorem exists_cons_monthChars {month : Nat} (hmonth : 1 ≤ month ∧ month ≤ 12) :
    ∃ letter others, monthChars form month = letter :: others ∧ Text.isBlank letter = false := by
  obtain ⟨hfirst, hlast⟩ := hmonth
  cases form <;> interval_cases month <;> exact ⟨_, _, rfl, rfl⟩

/-- The month of a name is found, unless a letter follows it. -/
theorem scanMonth_monthChars {month : Nat} (hmonth : 1 ≤ month ∧ month ≤ 12) {rest : List Char}
    (hrest : ∀ c ∈ rest.head?, c = ' ') :
    scanMonth (monthChars form month ++ rest) = some (month, rest) := by
  obtain ⟨hfirst, hlast⟩ := hmonth
  cases rest with
  | nil => cases form <;> interval_cases month <;> rfl
  | cons c rest =>
    obtain rfl : c = ' ' := hrest c rfl
    cases form <;> interval_cases month <;> rfl

/-- The milliseconds of a written fraction. -/
theorem scanFraction_fractionChars {nano : Nat} (h : nano < 1000000000) :
    scanFraction (fractionChars nano) = some (nano / 1000000, []) := by
  have hread {width n : Nat} (hwidth : 3 ≤ width) (hn : n < 10 ^ width) :
      scanFraction ('.' :: Digits.padLeft width (Digits.decimal n)) =
        some (n / 10 ^ (width - 3), []) := by
    have hnone : ∀ c ∈ ([] : List Char).head?, Digits.isDigit c = false := by simp
    have hscan := scanFraction_padLeft hwidth hn hnone
    rwa [List.append_nil] at hscan
  unfold fractionChars
  split
  · next hzero =>
    rw [hzero]
    rfl
  · split
    · rw [hread (Nat.le_refl 3) (by omega), Nat.sub_self, Nat.pow_zero, Nat.div_one]
    · split
      · rw [hread (by decide) (by omega), Nat.div_div_eq_div_mul]
        rfl
      · rw [hread (by decide) (by omega)]
        rfl

/-- There is no blank in front of a padded number. -/
theorem skipBlanks_padLeft (width n : Nat) (rest : List Char) :
    Text.skipBlanks (Digits.padLeft width (Digits.decimal n) ++ rest) =
      Digits.padLeft width (Digits.decimal n) ++ rest :=
  skipBlanks_eq_self fun _ hc => Digits.isBlank_of_isDigit (Digits.isDigit_of_mem_head?_padLeft hc)

/-- Two digits are read back. -/
theorem scanNumber_twoDigits {n : Nat} (h : n < 100) (rest : List Char) :
    scanNumber 2 (Text.skipBlanks (Instant.twoDigits n ++ rest)) = some (n, rest) := by
  rw [Instant.twoDigits, skipBlanks_padLeft, scanNumber_padLeft (by decide) h]

/-- A year without a sign has at most four digits. -/
theorem scanYear_of_unsigned {cs : List Char} (h : ∀ c ∈ cs.head?, c ≠ '-' ∧ c ≠ '+') :
    scanYear cs = (scanNumber 4 cs).map fun (n, rest) => ((n : Int), rest) := by
  unfold scanYear
  split
  · exact absurd rfl (h '-' rfl).1
  · exact absurd rfl (h '+' rfl).2
  · rfl

/-- A year of four digits is read back. -/
theorem scanYear_padLeft {year : Int} (h : 0 ≤ year ∧ year ≤ 9999) (rest : List Char) :
    scanYear (Text.skipBlanks (Digits.padLeft 4 (Digits.decimal year.natAbs) ++ rest)) =
      some (year, rest) := by
  have hunsigned : ∀ c ∈ (Digits.padLeft 4 (Digits.decimal year.natAbs) ++ rest).head?,
      c ≠ '-' ∧ c ≠ '+' := by
    intro c hc
    have hdigit := Digits.isDigit_of_mem_head?_padLeft hc
    exact ⟨Digits.ne_of_isDigit hdigit rfl, Digits.ne_of_isDigit hdigit rfl⟩
  rw [skipBlanks_padLeft, scanYear_of_unsigned hunsigned, scanNumber_padLeft (by decide) (by omega)]
  simp [h.1]

/-! ### Reading what was written -/

namespace Moment

/-- The numbers read so far together with those of a moment that the given parts stand for. -/
def onto (m : Moment) (p : Pattern) (r : Reading) : Reading where
  year := if .year ∈ p then m.date.year else r.year
  month := if .month ∈ p ∨ .monthName ∈ p then m.date.month else r.month
  day := if .day ∈ p then m.date.day else r.day
  hour := if .hour ∈ p then m.hour else r.hour
  minute := if .minute ∈ p then m.minute else r.minute
  second := if .second ∈ p then m.second else r.second
  milli := if .fraction ∈ p then m.nano / 1000000 else r.milli

theorem onto_append (m : Moment) (p q : Pattern) (r : Reading) :
    m.onto q (m.onto p r) = m.onto (p ++ q) r := by
  have hlater {a b : Prop} [Decidable a] [Decidable b] {α : Type} (x y : α) :
      (if b then x else if a then x else y) = if a ∨ b then x else y := by
    rw [← ite_or]
    exact if_congr or_comm rfl rfl
  simp only [onto, List.mem_append, hlater, or_or_or_comm]

/-- Where a pattern has the whole date, what is read is what it has of the moment. -/
theorem onto_eq_reading {p : Pattern}
    (hdate : .year ∈ p ∧ (.month ∈ p ∨ .monthName ∈ p) ∧ .day ∈ p) :
    m.onto p {} = (m.cut p).reading := by
  obtain ⟨hyear, hmonth, hday⟩ := hdate
  simp only [onto, reading, cut, if_pos hyear, if_pos hmonth, if_pos hday, apply_ite (· / 1000000)]

end Moment

/-- Whether what stands after a part cannot be taken for more of it. -/
def PatternItem.EndsBefore (rest : List Char) : PatternItem → Prop
  | .blank => ∀ c ∈ rest.head?, Text.isBlank c = false
  | .monthName => ∀ c ∈ rest.head?, c = ' '
  | .fraction => rest = []
  | _ => True

/-- A part of a pattern reads back what it writes, if nothing that follows can be taken for more of
it. -/
theorem PatternItem.scan_write {item : PatternItem} {rest : List Char}
    (h : item.EndsBefore rest) (r : Reading) :
    item.scan r (item.write form m ++ rest) = some (m.onto [item] r, rest) := by
  have hmonth := m.date.month_mem
  have hday := m.date.day_mem
  have hlength := monthLength_le (isLeapYear m.date.year) m.date.month
  have hhour := m.hour_lt
  have hminute := m.minute_lt
  have hsecond := m.second_lt
  cases item with
  | char c => simp [scan, write, scanChar, Moment.onto]
  | blank =>
    have hskip : Text.skipBlanks (' ' :: rest) = rest := skipBlanks_eq_self h
    simp [scan, write, hskip, Moment.onto]
  | year => simp [scan, write, scanYear_padLeft m.year_mem, Moment.onto]
  | monthName => simp [scan, write, scanMonth_monthChars hmonth h, Moment.onto]
  | fraction =>
    obtain rfl : rest = [] := h
    simp [scan, write, scanFraction_fractionChars m.nano_lt, Moment.onto]
  | month | day | hour | minute | second =>
    simp (disch := omega) [scan, write, scanNumber_twoDigits, Moment.onto]

/-- Whether a part may stand in front of another one. -/
def PatternItem.mayPrecede : PatternItem → PatternItem → Bool
  | .blank, next => next ∈ [.year, .monthName, .day, .hour]
  | .monthName, next => next = .blank
  | .fraction, _ => false
  | _, _ => true

/-- A year, a day, an hour and the name of a month do not start with a blank. -/
theorem PatternItem.isBlank_of_mem_head?_write {item : PatternItem}
    (hitem : item ∈ [.year, .monthName, .day, .hour]) {rest : List Char} :
    ∀ c ∈ (item.write form m ++ rest).head?, Text.isBlank c = false := by
  have hdigits {width n : Nat} : ∀ c ∈ (Digits.padLeft width (Digits.decimal n) ++ rest).head?,
      Text.isBlank c = false :=
    fun _ hc => Digits.isBlank_of_isDigit (Digits.isDigit_of_mem_head?_padLeft hc)
  simp only [List.mem_cons, List.not_mem_nil, or_false] at hitem
  rcases hitem with rfl | rfl | rfl | rfl
  · exact hdigits
  · obtain ⟨letter, others, hname, hletter⟩ := exists_cons_monthChars m.date.month_mem
    rw [write, hname]
    rintro _ ⟨⟩
    exact hletter
  · exact hdigits
  · exact hdigits

/-- What is written after a part ends it. -/
theorem PatternItem.endsBefore_write {item next : PatternItem} (h : item.mayPrecede next = true)
    (rest : List Char) : item.EndsBefore (next.write form m ++ rest) := by
  cases item with
  | blank => exact isBlank_of_mem_head?_write (of_decide_eq_true h)
  | monthName =>
    obtain rfl : next = .blank := of_decide_eq_true h
    rintro _ ⟨⟩
    rfl
  | fraction => cases h
  | char | year | month | day | hour | minute | second => trivial

/-- A pattern reads back what it writes. -/
theorem Pattern.scan_write {p : Pattern} (hp : p.IsChain (·.mayPrecede ·)) (r : Reading) :
    p.scan r (p.write form m) = some (m.onto p r, []) := by
  induction p generalizing r with
  | nil => rfl
  | cons item items ih =>
    have hend : item.EndsBefore (Pattern.write items form m) := by
      cases items with
      | nil => cases item <;> simp [PatternItem.EndsBefore, Pattern.write]
      | cons next others => exact PatternItem.endsBefore_write (List.isChain_cons_cons.1 hp).1 _
    have hitems := ih hp.tail (m.onto [item] r)
    rw [m.onto_append, List.singleton_append] at hitems
    exact Option.bind_eq_some_iff.2 ⟨_, PatternItem.scan_write hend r, hitems⟩

/-- A pattern that has the whole date reads what it writes as the moment cut to its parts. -/
theorem Pattern.read?_write {p : Pattern} (hp : p.IsChain (·.mayPrecede ·))
    (hdate : .year ∈ p ∧ (.month ∈ p ∨ .monthName ∈ p) ∧ .day ∈ p) :
    p.read? (p.write form m) = some (m.cut p).instant := by
  unfold Pattern.read?
  rw [Pattern.scan_write hp]
  dsimp only
  rw [Moment.onto_eq_reading hdate, Moment.toInstant?_reading]

end Calendar
end LooseRecords
