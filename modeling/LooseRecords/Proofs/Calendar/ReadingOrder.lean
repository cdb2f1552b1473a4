import LooseRecords.Calendar.Reading
import LooseRecords.Proofs.Calendar.Shapes

/-!
# No pattern hides another

Timestamps and dates of mail messages are tried before the patterns, and the patterns one after the
other, so a text goes to the first reader that accepts it.  Readers are lenient: a year may have two
digits, and blanks may be missing.  Still what a pattern writes is read as it was meant
(`Instant.read_written_moment`), because no reader that is tried before the pattern accepts it:

* A timestamp gives its zone, by the letter `Z` or in hours and minutes with a third colon, and a
  date of a mail message has three blanks.  Nothing of this is ever written.
* No text written by a pattern fits an earlier pattern, which is checked for each of its shapes
  (`Calendar.patterns_apart`).
-/

namespace LooseRecords
namespace Calendar

open Text (isBlank skipBlanks)

variable {cs rest : List Char}

/-! ### What readers leave is the end of the text -/

theorem suffix_of_scanNumber {width n : Nat} (h : scanNumber width cs = some (n, rest)) :
    rest <:+ cs := by
  obtain ⟨ds, -, -, rfl⟩ := exists_digits_of_scanNumber h
  exact List.suffix_append ds rest

theorem suffix_of_scanFixed {width n : Nat} (hwidth : 0 < width)
    (h : scanFixed width cs = some (n, rest)) : rest <:+ cs := by
  obtain ⟨ds, -, -, rfl⟩ := exists_digits_of_scanFixed hwidth h
  exact List.suffix_append ds rest

theorem suffix_of_scanChar {expected : Char} (h : scanChar expected cs = some rest) :
    rest <:+ cs := by
  rw [eq_cons_of_scanChar h]
  exact List.suffix_cons expected rest

theorem suffix_of_scanWord {word : List Char} (h : scanWord word cs = some rest) :
    rest <:+ cs := by
  induction word generalizing cs with
  | nil =>
    cases h
    exact List.suffix_refl _
  | cons w ws ih =>
    cases cs with
    | nil => cases h
    | cons c cs =>
      rw [scanWord] at h
      split at h
      · exact (ih h).trans (List.suffix_cons c cs)
      · cases h

theorem suffix_of_scanShortMonth {month : Nat} (h : scanShortMonth cs = some (month, rest)) :
    rest <:+ cs := by
  obtain ⟨stem, hstem, heq⟩ := Option.map_eq_some_iff.1 h
  obtain ⟨name, -, hfound⟩ := List.exists_of_findSome?_eq_some hstem
  obtain ⟨after, hword, rfl⟩ := Option.map_eq_some_iff.1 hfound
  cases heq
  exact suffix_of_scanWord hword

theorem suffix_of_scanMailWeekday {day : Option Weekday}
    (h : scanMailWeekday cs = some (day, rest)) : rest <:+ cs := by
  unfold scanMailWeekday at h
  split at h
  · cases h
    exact List.suffix_refl _
  · next found after hscan =>
    obtain ⟨name, -, hfound⟩ := List.exists_of_findSome?_eq_some hscan
    obtain ⟨after', hword, heq⟩ := Option.map_eq_some_iff.1 hfound
    obtain ⟨rest', hchar, heq'⟩ := Option.map_eq_some_iff.1 h
    cases heq
    cases heq'
    exact (suffix_of_scanChar hchar).trans (suffix_of_scanWord hword)

theorem suffix_of_scanMailYear {year : Nat} (h : scanMailYear cs = some (year, rest)) :
    rest <:+ cs := by
  unfold scanMailYear at h
  rw [List.span_eq_takeWhile_dropWhile] at h
  dsimp only at h
  split at h
  · cases h
    exact List.dropWhile_suffix _
  · cases h

theorem suffix_of_scanTimeMark (h : scanTimeMark cs = some rest) : rest <:+ cs := by
  cases cs with
  | nil => cases h
  | cons c cs =>
    rw [scanTimeMark] at h
    split at h
    · cases h
      exact List.suffix_cons c rest
    · cases h

theorem suffix_of_scanFraction {milli : Nat} (h : scanFraction cs = some (milli, rest)) :
    rest <:+ cs := by
  unfold scanFraction at h
  split at h
  · next after =>
    rw [List.span_eq_takeWhile_dropWhile] at h
    split at h
    · cases h
    · next heq =>
      cases heq
      cases h
      exact (List.dropWhile_suffix _).trans (List.suffix_cons '.' after)
  · cases h
    exact List.suffix_refl _

/-! ### The readers that come before the patterns -/

/-- One blank or more are taken. -/
theorem countP_isBlank_of_scanBlanks (h : scanBlanks cs = some rest) :
    rest.countP isBlank + 1 ≤ cs.countP isBlank := by
  cases cs with
  | nil => cases h
  | cons c cs =>
    rw [scanBlanks] at h
    split at h
    · next hc =>
      cases h
      have hrest : skipBlanks cs <:+ cs := List.dropWhile_suffix _
      rw [List.countP_cons_of_pos hc]
      exact Nat.succ_le_succ hrest.countP_le
    · cases h

/-- A date of a mail message has blanks between day, month, year and time. -/
theorem three_le_countP_isBlank {t : Instant} (h : readMailDate? cs = some t) :
    3 ≤ cs.countP isBlank := by
  obtain ⟨⟨weekday, afterWeekday⟩, hweekday, h⟩ := Option.bind_eq_some_iff.1 h
  obtain ⟨⟨day, afterDay⟩, hday, h⟩ := Option.bind_eq_some_iff.1 h
  obtain ⟨beforeMonth, hblanks₁, h⟩ := Option.bind_eq_some_iff.1 h
  obtain ⟨⟨month, afterMonth⟩, hmonth, h⟩ := Option.bind_eq_some_iff.1 h
  obtain ⟨beforeYear, hblanks₂, h⟩ := Option.bind_eq_some_iff.1 h
  obtain ⟨⟨year, afterYear⟩, hyear, h⟩ := Option.bind_eq_some_iff.1 h
  obtain ⟨beforeTime, hblanks₃, -⟩ := Option.bind_eq_some_iff.1 h
  have hskip {ds : List Char} : skipBlanks ds <:+ ds := List.dropWhile_suffix _
  have hafterDay : afterDay <:+ cs :=
    (suffix_of_scanNumber hday).trans
      (hskip.trans ((suffix_of_scanMailWeekday hweekday).trans hskip))
  have hstart := hafterDay.countP_le (p := isBlank)
  have hfirst := countP_isBlank_of_scanBlanks hblanks₁
  have hmonths := (suffix_of_scanShortMonth hmonth).countP_le (p := isBlank)
  have hsecond := countP_isBlank_of_scanBlanks hblanks₂
  have hyears := (suffix_of_scanMailYear hyear).countP_le (p := isBlank)
  have hthird := countP_isBlank_of_scanBlanks hblanks₃
  omega

/-- There is a colon in the offset of a timestamp, unless a letter stands for it. -/
theorem exists_zone_of_scanTimestampOffset {offset : Int}
    (h : scanTimestampOffset cs = some (offset, rest)) :
    'Z' ∈ cs ∨ 'z' ∈ cs ∨ 1 ≤ cs.count ':' := by
  have hdigits {minutes : Nat} {after : List Char}
      (h : scanOffsetDigits [':'] after = some (minutes, rest)) : 1 ≤ after.count ':' := by
    obtain ⟨⟨hours, afterHours⟩, hhours, h⟩ := Option.bind_eq_some_iff.1 h
    obtain ⟨beforeMinutes, hcolon, -⟩ := Option.bind_eq_some_iff.1 h
    have hsuffix := suffix_of_scanFixed (by decide) hhours
    cases afterHours with
    | nil => cases hcolon
    | cons c others =>
      rw [scanWord] at hcolon
      split at hcolon
      · next hc =>
        obtain rfl : c = ':' := eq_of_toLower_eq hc (by decide)
        exact List.one_le_count_iff.2 (hsuffix.subset List.mem_cons_self)
      · cases hcolon
  cases cs with
  | nil => cases h
  | cons c after =>
    rw [scanTimestampOffset] at h
    split at h
    · next hc =>
      rcases hc with rfl | rfl
      · exact .inl List.mem_cons_self
      · exact .inr (.inl List.mem_cons_self)
    · refine .inr (.inr (Nat.le_trans ?_ ((List.suffix_cons c after).count_le ':')))
      split at h
      · obtain ⟨found, hfound, heq⟩ := Option.map_eq_some_iff.1 h
        cases heq
        exact hdigits hfound
      · split at h
        · obtain ⟨found, hfound, heq⟩ := Option.map_eq_some_iff.1 h
          cases heq
          exact hdigits hfound
        · cases h

/-- A timestamp gives its zone by a letter or with a third colon. -/
theorem exists_zone_of_readTimestamp? {t : Instant} (h : readTimestamp? cs = some t) :
    'Z' ∈ cs ∨ 'z' ∈ cs ∨ 3 ≤ cs.count ':' := by
  obtain ⟨⟨year, afterYear⟩, hyear, h⟩ := Option.bind_eq_some_iff.1 h
  obtain ⟨beforeMonth, hdash₁, h⟩ := Option.bind_eq_some_iff.1 h
  obtain ⟨⟨month, afterMonth⟩, hmonth, h⟩ := Option.bind_eq_some_iff.1 h
  obtain ⟨beforeDay, hdash₂, h⟩ := Option.bind_eq_some_iff.1 h
  obtain ⟨⟨day, afterDay⟩, hday, h⟩ := Option.bind_eq_some_iff.1 h
  obtain ⟨beforeHour, hmark, h⟩ := Option.bind_eq_some_iff.1 h
  obtain ⟨⟨hour, afterHour⟩, hhour, h⟩ := Option.bind_eq_some_iff.1 h
  obtain ⟨beforeMinute, hcolon₁, h⟩ := Option.bind_eq_some_iff.1 h
  obtain ⟨⟨minute, afterMinute⟩, hminute, h⟩ := Option.bind_eq_some_iff.1 h
  obtain ⟨beforeSecond, hcolon₂, h⟩ := Option.bind_eq_some_iff.1 h
  obtain ⟨⟨second, afterSecond⟩, hsecond, h⟩ := Option.bind_eq_some_iff.1 h
  obtain ⟨⟨milli, beforeOffset⟩, hfraction, h⟩ := Option.bind_eq_some_iff.1 h
  obtain ⟨⟨offset, ending⟩, hoffset, -⟩ := Option.bind_eq_some_iff.1 h
  have hdate : afterHour <:+ cs :=
    (suffix_of_scanFixed (by decide) hhour).trans ((suffix_of_scanTimeMark hmark).trans
      ((suffix_of_scanFixed (by decide) hday).trans ((suffix_of_scanChar hdash₂).trans
        ((suffix_of_scanFixed (by decide) hmonth).trans ((suffix_of_scanChar hdash₁).trans
          (suffix_of_scanFixed (by decide) hyear))))))
  have hminutes : afterMinute <:+ beforeMinute := suffix_of_scanFixed (by decide) hminute
  have hseconds : beforeOffset <:+ beforeSecond :=
    (suffix_of_scanFraction hfraction).trans (suffix_of_scanFixed (by decide) hsecond)
  have hclock : beforeOffset <:+ cs :=
    hseconds.trans ((suffix_of_scanChar hcolon₂).trans (hminutes.trans
      ((suffix_of_scanChar hcolon₁).trans hdate)))
  rcases exists_zone_of_scanTimestampOffset hoffset with hletter | hletter | hcolon₃
  · exact .inl (hclock.subset hletter)
  · exact .inr (.inl (hclock.subset hletter))
  · have hfirst : afterHour.count ':' = beforeMinute.count ':' + 1 := by
      rw [eq_cons_of_scanChar hcolon₁, List.count_cons_self]
    have hsecond : afterMinute.count ':' = beforeSecond.count ':' + 1 := by
      rw [eq_cons_of_scanChar hcolon₂, List.count_cons_self]
    have := hdate.count_le ':'
    have := hminutes.count_le ':'
    have := hseconds.count_le ':'
    exact .inr (.inr (by omega))

/-! ### What the patterns write -/

/-- The parts of a pattern are apart from each other, none of them is a digit, and they include the
whole date. -/
theorem patterns_regular : ∀ p ∈ dateTimePatterns ++ datePatterns,
    p.IsChain (·.mayPrecede ·) ∧ p.all (·.isNoDigit) = true ∧
      .year ∈ p ∧ (.month ∈ p ∨ .monthName ∈ p) ∧ .day ∈ p := by
  decide

/-- What a pattern writes has neither the zone of a timestamp nor the blanks of a date of a mail
message, and no blank around it. -/
theorem shapes_plain : ∀ p ∈ dateTimePatterns ++ datePatterns, ∀ s ∈ p.shapes,
    ('Z' ∉ s ∧ 'z' ∉ s ∧ s.count ':' < 3) ∧ s.countP isBlank < 3 ∧
      s.head?.all (!isBlank ·) = true ∧ s.getLast?.all (!isBlank ·) = true := by
  decide +kernel

/-- What a pattern writes fits no earlier pattern. -/
theorem patterns_apart : (dateTimePatterns ++ datePatterns).Pairwise fun earlier later =>
    ∀ s ∈ later.shapes, ¬earlier.Fits s := by
  decide +kernel

theorem Pattern.write_plain {p : Pattern} (hp : p ∈ dateTimePatterns ++ datePatterns)
    (form : MonthForm) (m : Moment) :
    ('Z' ∉ p.write form m ∧ 'z' ∉ p.write form m ∧ (p.write form m).count ':' < 3) ∧
      (p.write form m).countP isBlank < 3 ∧
      (∀ c ∈ (p.write form m).head?, isBlank c = false) ∧
      ∀ c ∈ (p.write form m).getLast?, isBlank c = false := by
  obtain ⟨⟨hcapital, hsmall, hcolons⟩, hblanks, hfirst, hlast⟩ :=
    shapes_plain p hp _ (p.shape_write_mem form m)
  have hmem {c : Char} (hc : Digits.isDigit c = false) (h : c ∈ p.write form m) :
      c ∈ shape (p.write form m) :=
    List.mem_map.2 ⟨c, h, shapeOf_eq_self hc⟩
  have hcolon (c : Char) : (shapeOf c == ':') = (c == ':') := by
    rw [Bool.eq_iff_iff, beq_iff_eq, beq_iff_eq, shapeOf_eq_iff rfl]
  have hend {found : Option Char} (h : (found.map shapeOf).all (!isBlank ·) = true) :
      ∀ c ∈ found, isBlank c = false := by
    rintro c rfl
    rw [← isBlank_shapeOf]
    simpa using h
  rw [List.count, countP_shape hcolon] at hcolons
  rw [countP_shape isBlank_shapeOf] at hblanks
  rw [shape, List.head?_map] at hfirst
  rw [shape, List.getLast?_map] at hlast
  exact ⟨⟨fun h => hcapital (hmem rfl h), fun h => hsmall (hmem rfl h), hcolons⟩, hblanks,
    hend hfirst, hend hlast⟩

/-- An earlier pattern does not read what a later one writes. -/
theorem patterns_unshadowed : (dateTimePatterns ++ datePatterns).Pairwise fun earlier later =>
    ∀ form m, earlier.read? (later.write form m) = none := by
  refine patterns_apart.imp_of_mem fun {earlier later} hearlier _ hapart form m => ?_
  by_contra hread
  obtain ⟨t, hread⟩ := Option.ne_none_iff_exists'.1 hread
  have hfits := (Pattern.fits_shape_iff (patterns_regular earlier hearlier).2.1 _).2
    (Pattern.fits_of_read? hread)
  exact hapart _ (later.shape_write_mem form m) hfits

end Calendar

open Calendar

/-- The text that a pattern writes, with the name of the month in either form, is read as the moment
that it shows: the date, the parts of the time of day that the pattern has, to the millisecond, and
zero for the parts that it does not have.  That timestamps, dates of mail messages and all earlier
patterns are tried first makes no difference. -/
theorem Instant.read_written_moment {p : Pattern} (hp : p ∈ dateTimePatterns ++ datePatterns)
    (form : MonthForm) (m : Moment) :
    Instant.ofText? (String.ofList (p.write form m)) = some (m.cut p).instant := by
  obtain ⟨⟨hcapital, hsmall, hcolons⟩, hblanks, hfirst, hlast⟩ :=
    Pattern.write_plain hp form m
  have htimestamp : readTimestamp? (p.write form m) = none := by
    by_contra hread
    obtain ⟨t, hread⟩ := Option.ne_none_iff_exists'.1 hread
    rcases exists_zone_of_readTimestamp? hread with hzone | hzone | hzone
    · exact hcapital hzone
    · exact hsmall hzone
    · omega
  have hmail : readMailDate? (p.write form m) = none := by
    by_contra hread
    obtain ⟨t, hread⟩ := Option.ne_none_iff_exists'.1 hread
    have := three_le_countP_isBlank hread
    omega
  obtain ⟨hchain, -, hdate⟩ := patterns_regular p hp
  have hpatterns : (dateTimePatterns ++ datePatterns).findSome? (·.read? (p.write form m)) =
      some (m.cut p).instant := by
    obtain ⟨before, after, hsplit⟩ := List.append_of_mem hp
    have hbefore := patterns_unshadowed
    rw [hsplit, List.pairwise_append] at hbefore
    exact List.findSome?_eq_some_iff.2 ⟨before, p, after, hsplit, Pattern.read?_write hchain hdate,
      fun earlier h => hbefore.2.2 earlier h p List.mem_cons_self form m⟩
  rw [Instant.ofText?, String.toList_ofList, trimChars_eq_self hfirst hlast, Instant.ofTrimmed?,
    htimestamp, hmail, hpatterns]
  rfl

/-- A month stands first although years may have two digits as well, and the fraction of a second is
not shown. -/
theorem Instant.read_written_moment_month_first :
    let p : Pattern := monthFirst '/' ++ [.blank] ++ fullClock
    let m : Moment := ⟨⟨4, 2, 29, by decide, by decide, by decide⟩, 23, 59, 59, 999999999,
      by decide, by decide, by decide, by decide, by decide⟩
    p ∈ dateTimePatterns ++ datePatterns ∧ String.ofList (p.write .full m) = "02/29/0004 23:59:59" ∧
      ∃ t, Instant.ofText? "02/29/0004 23:59:59" = some t ∧ t.second = -62035804801 ∧
        t.milli = 0 ∧ t.leap = false := by
  intro p m
  have hp : p ∈ dateTimePatterns ++ datePatterns := by decide
  have htext : String.ofList (p.write .full m) = "02/29/0004 23:59:59" := by decide
  have hread := Instant.read_written_moment hp .full m
  rw [htext] at hread
  exact ⟨hp, htext, _, hread, by decide, by decide, rfl⟩

end LooseRecords
