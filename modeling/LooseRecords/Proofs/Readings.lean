import LooseRecords.Proofs.Calendar.Scan
import LooseRecords.Calendar.Reading
import LooseRecords.Scalar
import LooseRecords.Token

/-!
# No text can be read in two ways

A text may be a word for a truth value, a written date or a written number, and it is never two of
these.  With seventeen patterns for dates beside the two kinds of timestamps, and with numbers in
four bases, this is not seen by comparing readers in pairs.  It is seen by looking at one place only:
the *mark* of a text, which is what follows the sign and the digits in front of it.

* The mark of a date is a hyphen, a slash or a blank, or it starts with the name of a month or of a
  day (`isDateMark_of_ofTrimmed?`).
* The mark of a number is nothing, or it starts with a point, with the `e` of an exponent or with the
  letter of a base (`isNumberMark_of_numberOfTrimmed?`).
* The mark of a word is the word.
-/

namespace LooseRecords

/-! ### Small letters -/

/-- A character is its own small form, or it is a capital and its small form a small letter. -/
theorem toLower_eq_self_or (c : Char) :
    c.toLower = c ∨ (65 ≤ c.toNat ∧ c.toNat ≤ 90) ∧ 97 ≤ c.toLower.toNat ∧ c.toLower.toNat ≤ 122 := by
  unfold Char.toLower
  split
  · next hcapital =>
    right
    have hlower : 65 ≤ c.val.toNat := UInt32.le_iff_toNat_le.1 hcapital.1
    have hupper : c.val.toNat ≤ 90 := UInt32.le_iff_toNat_le.1 hcapital.2
    have hshift : ('a'.val - 'A'.val : UInt32).toNat = 32 := by decide
    have hsmall : (c.val + ('a'.val - 'A'.val)).toNat = c.val.toNat + 32 := by
      rw [UInt32.toNat_add, hshift]
      omega
    refine ⟨⟨hlower, hupper⟩, ?_⟩
    show 97 ≤ (c.val + ('a'.val - 'A'.val)).toNat ∧ (c.val + ('a'.val - 'A'.val)).toNat ≤ 122
    omega
  · exact .inl rfl

theorem isDigit_toLower (c : Char) : Digits.isDigit c.toLower = Digits.isDigit c := by
  rcases toLower_eq_self_or c with hself | ⟨hcapital, hsmall⟩
  · rw [hself]
  · have hother : ∀ {d : Char}, 57 < d.toNat → Digits.isDigit d = false := by
      intro d hd
      rw [← Bool.not_eq_true, Digits.isDigit_iff]
      omega
    rw [hother (by omega), hother (by omega)]

/-- Blanks have no small form of their own. -/
theorem toLower_of_isBlank {c : Char} (h : Text.isBlank c = true) : c.toLower = c := by
  rcases toLower_eq_self_or c with hself | ⟨hcapital, -⟩
  · exact hself
  · exfalso
    have hother : Text.isBlank c = false := by
      unfold Text.isBlank Text.blankCharacters
      simp only [Text.CodeRanges.contains]
      rw [if_neg (by omega), if_neg (by omega), if_neg (by omega), if_neg (by omega),
        if_pos (by omega)]
    rw [hother] at h
    cases h

/-- Only a small letter is the small form of another character. -/
theorem eq_of_toLower_eq {c d : Char} (h : c.toLower = d) (hd : d.toNat < 97) : c = d := by
  rcases toLower_eq_self_or c with hself | ⟨-, hsmall⟩
  · exact hself.symm.trans h
  · rw [h] at hsmall
    omega

/-- A letter is neither a sign nor a digit. -/
theorem ne_sign_of_small {c : Char} (h : 97 ≤ c.toLower.toNat) :
    (c ≠ '-' ∧ c ≠ '+') ∧ Digits.isDigit c = false := by
  refine ⟨⟨?_, ?_⟩, ?_⟩
  · rintro rfl
    revert h
    decide
  · rintro rfl
    revert h
    decide
  · rw [← isDigit_toLower, ← Bool.not_eq_true, Digits.isDigit_iff]
    omega

/-! ### Marks -/

/-- What follows the sign and the digits in front of a text, in small letters. -/
def mark (cs : List Char) : List Char :=
  ((Decimal.splitSign cs).2.dropWhile Digits.isDigit).map Char.toLower

/-- The names of months and days that a date can start with or that can follow its first number, cut
after three letters. -/
def calendarNames : List (List Char) :=
  (Calendar.monthNames.map (·.1) ++ Calendar.weekdayNames.map (·.2)).map (·.map Char.toLower)

/-- What can follow the first number of a date. -/
def IsDateMark (m : List Char) : Prop :=
  (∃ c ∈ m.head?, c = '-' ∨ c = '/' ∨ Text.isBlank c = true) ∨ ∃ name ∈ calendarNames, name <+: m

/-- What can follow the first digits of a number: nothing, a point, an exponent, or the letter of a
base, which stands before digits or a sign. -/
def IsNumberMark : List Char → Prop
  | [] => True
  | c :: rest =>
      c = '.' ∨ c = 'e' ∨ c = 'x' ∨ c = 'b' ∨
        c = 'o' ∧ ∃ d ∈ rest.head?, d = '+' ∨ Digits.isDigit d = true

/-- A name starts with a small letter, and not as the mark of a number does: after the `o` of October
comes a `c`. -/
theorem exists_cons_cons_of_mem_calendarNames {name : List Char} (h : name ∈ calendarNames) :
    ∃ a b rest, name = a :: b :: rest ∧ 97 ≤ a.toNat ∧ a ∉ ['e', 'x', 'b'] ∧
      (a = 'o' → b = 'c') := by
  have hall : (calendarNames.all fun name => 1 < name.length && 97 ≤ (name.getD 0 ' ').toNat &&
      name.getD 0 ' ' ∉ ['e', 'x', 'b'] && (name.getD 0 ' ' ≠ 'o' || name.getD 1 ' ' = 'c')) =
        true := by decide
  have hname := List.all_eq_true.1 hall name h
  simp only [Bool.and_eq_true, Bool.or_eq_true, decide_eq_true_eq] at hname
  obtain ⟨⟨⟨hlength, hsmall⟩, hletter⟩, hoctober⟩ := hname
  obtain ⟨a, others, rfl⟩ := List.exists_cons_of_length_pos (Nat.zero_lt_of_lt hlength)
  obtain ⟨b, rest, rfl⟩ := List.exists_cons_of_length_pos (Nat.lt_of_succ_lt_succ hlength)
  exact ⟨a, b, rest, rfl, hsmall, hletter, fun ha => hoctober.resolve_left fun hne => hne ha⟩

/-- The mark of a number is not the mark of a date. -/
theorem IsNumberMark.not_isDateMark {m : List Char} (h : IsNumberMark m) : ¬IsDateMark m := by
  rintro (⟨c, hc, hmark⟩ | ⟨name, hname, ⟨after, rfl⟩⟩)
  · cases m with
    | nil => cases hc
    | cons d rest =>
      cases hc
      rcases h with rfl | rfl | rfl | rfl | ⟨rfl, -⟩ <;> revert hmark <;> decide
  · obtain ⟨a, b, rest, rfl, hsmall, hletter, hoctober⟩ :=
      exists_cons_cons_of_mem_calendarNames hname
    rcases h with rfl | rfl | rfl | rfl | ⟨rfl, d, hd, hdigit⟩
    · revert hsmall
      decide
    · exact hletter (by simp)
    · exact hletter (by simp)
    · exact hletter (by simp)
    · cases hd
      rw [hoctober rfl] at hdigit
      revert hdigit
      decide

/-! ### Where the mark begins -/

variable {cs ds rest : List Char} {c : Char}

/-- The digits in front of a text end where another character stands. -/
theorem dropWhile_isDigit_append (hds : ∀ d ∈ ds, Digits.isDigit d = true)
    (hc : Digits.isDigit c = false) :
    (ds ++ c :: rest).dropWhile Digits.isDigit = c :: rest := by
  rw [List.dropWhile_append_of_pos hds, List.dropWhile_cons_of_neg (by simp [hc])]

/-- A text without a sign in front of it is its own unsigned part. -/
theorem splitSign_cons (hc : c ≠ '-' ∧ c ≠ '+') :
    Decimal.splitSign (c :: rest) = (false, c :: rest) := by
  unfold Decimal.splitSign
  split
  · next heq => exact absurd (List.cons.inj heq).1 hc.1
  · next heq => exact absurd (List.cons.inj heq).1 hc.2
  · rfl

/-- The mark after a run of digits is what follows them. -/
theorem mark_append_cons (hne : ds ≠ []) (hds : ∀ d ∈ ds, Digits.isDigit d = true)
    (hc : Digits.isDigit c = false) : mark (ds ++ c :: rest) = (c :: rest).map Char.toLower := by
  obtain ⟨d, others, rfl⟩ := List.exists_cons_of_ne_nil hne
  have hd : Digits.isDigit d = true := hds d List.mem_cons_self
  have hsign : d ≠ '-' ∧ d ≠ '+' :=
    ⟨Digits.ne_of_isDigit hd (by decide), Digits.ne_of_isDigit hd (by decide)⟩
  have hdrop : (d :: others ++ c :: rest).dropWhile Digits.isDigit = c :: rest :=
    dropWhile_isDigit_append hds hc
  rw [List.cons_append] at hdrop ⊢
  rw [mark, splitSign_cons hsign, hdrop]

/-- A text that starts neither with a sign nor with a digit is its own mark. -/
theorem mark_cons (hsign : c ≠ '-' ∧ c ≠ '+') (hc : Digits.isDigit c = false) :
    mark (c :: rest) = (c :: rest).map Char.toLower := by
  rw [mark, splitSign_cons hsign, List.dropWhile_cons_of_neg (by simp [hc])]

/-- A text that starts with a letter is its own mark. -/
theorem mark_of_small (h : 97 ≤ c.toLower.toNat) :
    mark (c :: rest) = (c :: rest).map Char.toLower := by
  obtain ⟨hsign, hdigit⟩ := ne_sign_of_small h
  exact mark_cons hsign hdigit

/-! ### The mark of a date -/

theorem isDateMark_of_char (h : c = '-' ∨ c = '/' ∨ Text.isBlank c = true) :
    IsDateMark ((c :: rest).map Char.toLower) := by
  have hself : c.toLower = c := by
    rcases h with rfl | rfl | hblank
    · rfl
    · rfl
    · exact toLower_of_isBlank hblank
  refine .inl ⟨c.toLower, rfl, ?_⟩
  rw [hself]
  exact h

/-- A text that starts with a name starts with a letter. -/
theorem exists_cons_of_calendarName {name : List Char} (hname : name ∈ calendarNames)
    (hpre : name <+: cs.map Char.toLower) :
    ∃ c rest, cs = c :: rest ∧ 97 ≤ c.toLower.toNat := by
  obtain ⟨a, b, ending, rfl, hsmall, -⟩ := exists_cons_cons_of_mem_calendarNames hname
  cases cs with
  | nil => cases List.prefix_nil.1 hpre
  | cons c rest =>
    obtain ⟨hc, -⟩ := List.cons_prefix_cons.1 hpre
    exact ⟨c, rest, rfl, hc ▸ hsmall⟩

theorem isDigit_of_isBlank (h : Text.isBlank c = true) : Digits.isDigit c = false := by
  by_contra hdigit
  rw [Digits.isBlank_of_isDigit (Bool.not_eq_false _ ▸ hdigit)] at h
  cases h

/-- A text that starts with a blank has the mark of a date. -/
theorem isDateMark_of_isBlank (h : Text.isBlank c = true) : IsDateMark (mark (c :: rest)) := by
  have hsign : c ≠ '-' ∧ c ≠ '+' := by
    constructor
    · rintro rfl
      cases h
    · rintro rfl
      cases h
  rw [mark_cons hsign (isDigit_of_isBlank h)]
  exact isDateMark_of_char (.inr (.inr h))

namespace Calendar

/-- A word is taken from the front of a text, whatever its case. -/
theorem prefix_of_scanWord {word : List Char} (h : scanWord word cs = some rest) :
    word.map Char.toLower <+: cs.map Char.toLower := by
  induction word generalizing cs with
  | nil => exact List.nil_prefix
  | cons w ws ih =>
    cases cs with
    | nil => cases h
    | cons c cs =>
      rw [scanWord] at h
      split at h
      · next hc =>
        rw [List.map_cons, List.map_cons, List.cons_prefix_cons]
        exact ⟨hc.symm, ih h⟩
      · cases h

/-- What is read as a month starts with the name of one. -/
theorem exists_calendarName_of_scanMonth {found : Nat × List Char} (h : scanMonth cs = some found) :
    ∃ name ∈ calendarNames, name <+: cs.map Char.toLower := by
  obtain ⟨stem, hstem, -⟩ := Option.map_eq_some_iff.1 h
  obtain ⟨⟨⟨stem, ending⟩, i⟩, hname, hfound⟩ := List.exists_of_findSome?_eq_some hstem
  obtain ⟨after, hword, -⟩ := Option.map_eq_some_iff.1 hfound
  refine ⟨stem.map Char.toLower, ?_, prefix_of_scanWord hword⟩
  rw [calendarNames, List.map_append, List.mem_append, List.map_map]
  exact .inl (List.mem_map.2 ⟨_, List.fst_mem_of_mem_zipIdx hname, rfl⟩)

theorem exists_calendarName_of_scanWeekday {found : Weekday × List Char}
    (h : scanWeekday cs = some found) : ∃ name ∈ calendarNames, name <+: cs.map Char.toLower := by
  obtain ⟨⟨day, word⟩, hname, hfound⟩ := List.exists_of_findSome?_eq_some h
  obtain ⟨after, hword, -⟩ := Option.map_eq_some_iff.1 hfound
  refine ⟨word.map Char.toLower, ?_, prefix_of_scanWord hword⟩
  rw [calendarNames, List.map_append, List.mem_append, List.map_map, List.map_map]
  exact .inr (List.mem_map.2 ⟨_, hname, rfl⟩)

/-- A text that starts with a name has the mark of a date. -/
theorem isDateMark_of_calendarName {name : List Char} (hname : name ∈ calendarNames)
    (hpre : name <+: cs.map Char.toLower) : IsDateMark (mark cs) := by
  obtain ⟨c, rest, rfl, hsmall⟩ := exists_cons_of_calendarName hname hpre
  rw [mark_of_small hsmall]
  exact .inr ⟨name, hname, hpre⟩

/-- What follows a year that was read is the mark of the text, if it does not start with a digit. -/
theorem mark_of_scanYear {year : Int} (h : scanYear cs = some (year, c :: rest))
    (hc : Digits.isDigit c = false) : mark cs = (c :: rest).map Char.toLower := by
  unfold scanYear at h
  split at h
  all_goals
    obtain ⟨⟨n, after⟩, hnumber, heq⟩ := Option.map_eq_some_iff.1 h
    cases heq
    obtain ⟨ds, hne, hds, rfl⟩ := exists_digits_of_scanNumber hnumber
  · exact congrArg (List.map Char.toLower) (dropWhile_isDigit_append hds hc)
  · exact congrArg (List.map Char.toLower) (dropWhile_isDigit_append hds hc)
  · exact mark_append_cons hne hds hc

/-! ### Readers of dates -/

theorem isDateMark_of_readTimestamp? {t : Instant} (h : readTimestamp? cs = some t) :
    IsDateMark (mark cs) := by
  obtain ⟨⟨year, afterYear⟩, hyear, h⟩ := Option.bind_eq_some_iff.1 h
  obtain ⟨afterMark, hchar, -⟩ := Option.bind_eq_some_iff.1 h
  obtain ⟨ds, hne, hds, rfl⟩ := exists_digits_of_scanFixed (by decide) hyear
  rw [eq_cons_of_scanChar hchar, mark_append_cons hne hds (by decide)]
  exact isDateMark_of_char (.inl rfl)

/-- A date of a mail message starts with the name of a day, or with a number and a blank. -/
theorem isDateMark_of_readMailDate? {t : Instant} (hskip : Text.skipBlanks cs = cs)
    (h : readMailDate? cs = some t) : IsDateMark (mark cs) := by
  obtain ⟨⟨weekday, afterWeekday⟩, hweekday, h⟩ := Option.bind_eq_some_iff.1 h
  obtain ⟨⟨day, afterDay⟩, hday, h⟩ := Option.bind_eq_some_iff.1 h
  obtain ⟨afterBlanks, hblanks, -⟩ := Option.bind_eq_some_iff.1 h
  rw [hskip] at hweekday
  cases hscan : scanWeekday cs with
  | some found =>
    obtain ⟨name, hname, hpre⟩ := exists_calendarName_of_scanWeekday hscan
    exact isDateMark_of_calendarName hname hpre
  | none =>
    rw [scanMailWeekday, hscan] at hweekday
    cases hweekday
    rw [hskip] at hday
    obtain ⟨ds, hne, hds, rfl⟩ := exists_digits_of_scanNumber hday
    cases afterDay with
    | nil => cases hblanks
    | cons c rest =>
      have hblank : Text.isBlank c = true := by
        by_contra hc
        rw [scanBlanks, if_neg hc] at hblanks
        cases hblanks
      rw [mark_append_cons hne hds (isDigit_of_isBlank hblank)]
      exact isDateMark_of_char (.inr (.inr hblank))

/-- How patterns begin. -/
inductive IsOpening : Pattern → Prop
  | year {m : Char} (hm : m = '-' ∨ m = '/') : IsOpening [.year, .char m]
  | month {m : Char} (hm : m = '-' ∨ m = '/') : IsOpening [.month, .char m]
  | monthName : IsOpening [.monthName]
  | day : IsOpening [.day, .blank, .monthName]

/-- Every pattern for dates begins in one of these ways. -/
theorem exists_opening {p : Pattern} (hp : p ∈ dateTimePatterns ++ datePatterns) :
    ∃ opening rest, IsOpening opening ∧ p = opening ++ rest := by
  have hall : ∀ p ∈ dateTimePatterns ++ datePatterns,
      (p.take 2 = [.year, .char '-'] ∨ p.take 2 = [.year, .char '/']) ∨
        (p.take 2 = [.month, .char '-'] ∨ p.take 2 = [.month, .char '/']) ∨
        p.take 1 = [.monthName] ∨ p.take 3 = [.day, .blank, .monthName] := by decide
  have hsplit (n : Nat) : p = p.take n ++ p.drop n := (List.take_append_drop n p).symm
  rcases hall p hp with (h | h) | (h | h) | h | h
  · exact ⟨_, _, h ▸ .year (.inl rfl), hsplit 2⟩
  · exact ⟨_, _, h ▸ .year (.inr rfl), hsplit 2⟩
  · exact ⟨_, _, h ▸ .month (.inl rfl), hsplit 2⟩
  · exact ⟨_, _, h ▸ .month (.inr rfl), hsplit 2⟩
  · exact ⟨_, _, h ▸ .monthName, hsplit 1⟩
  · exact ⟨_, _, h ▸ .day, hsplit 3⟩

theorem Pattern.scan_append (p q : Pattern) (r : Reading) (cs : List Char) :
    Pattern.scan (p ++ q) r cs = (p.scan r cs).bind fun (r, cs) => q.scan r cs := by
  induction p generalizing r cs with
  | nil => rfl
  | cons item items ih =>
    rw [List.cons_append, Pattern.scan, Pattern.scan]
    cases item.scan r cs with
    | none => rfl
    | some found => exact ih found.1 found.2

/-- A number before a blank or a name. -/
theorem isDateMark_of_number_and_month {width n : Nat} {found : Nat × List Char}
    (hnumber : scanNumber width cs = some (n, rest))
    (hmonth : scanMonth (Text.skipBlanks rest) = some found) : IsDateMark (mark cs) := by
  obtain ⟨ds, hne, hds, rfl⟩ := exists_digits_of_scanNumber hnumber
  obtain ⟨name, hname, hpre⟩ := exists_calendarName_of_scanMonth hmonth
  cases rest with
  | nil => cases hmonth
  | cons c rest =>
    by_cases hblank : Text.isBlank c = true
    · rw [mark_append_cons hne hds (isDigit_of_isBlank hblank)]
      exact isDateMark_of_char (.inr (.inr hblank))
    · rw [Text.skipBlanks, List.dropWhile_cons_of_neg hblank] at hpre
      obtain ⟨_, _, heq, hsmall⟩ := exists_cons_of_calendarName hname hpre
      cases heq
      rw [mark_append_cons hne hds (ne_sign_of_small hsmall).2]
      exact .inr ⟨name, hname, hpre⟩

theorem IsOpening.isDateMark {opening : Pattern} (hopening : IsOpening opening)
    {found : Reading × List Char} (hskip : Text.skipBlanks cs = cs)
    (h : opening.scan {} cs = some found) : IsDateMark (mark cs) := by
  have hmark {m : Char} (hm : m = '-' ∨ m = '/') : Digits.isDigit m = false := by
    rcases hm with rfl | rfl <;> rfl
  cases hopening with
  | year hm =>
    obtain ⟨⟨r, after⟩, hyear, h⟩ := Option.bind_eq_some_iff.1 h
    obtain ⟨⟨r', after'⟩, hchar, -⟩ := Option.bind_eq_some_iff.1 h
    obtain ⟨⟨n, rest⟩, hscan, heq⟩ := Option.map_eq_some_iff.1 hyear
    obtain ⟨rest', hnext, -⟩ := Option.map_eq_some_iff.1 hchar
    cases heq
    rw [hskip, eq_cons_of_scanChar hnext] at hscan
    rw [mark_of_scanYear hscan (hmark hm)]
    exact isDateMark_of_char (hm.imp_right .inl)
  | month hm =>
    obtain ⟨⟨r, after⟩, hmonth, h⟩ := Option.bind_eq_some_iff.1 h
    obtain ⟨⟨r', after'⟩, hchar, -⟩ := Option.bind_eq_some_iff.1 h
    obtain ⟨⟨n, rest⟩, hscan, heq⟩ := Option.map_eq_some_iff.1 hmonth
    obtain ⟨rest', hnext, -⟩ := Option.map_eq_some_iff.1 hchar
    cases heq
    rw [hskip, eq_cons_of_scanChar hnext] at hscan
    obtain ⟨ds, hne, hds, rfl⟩ := exists_digits_of_scanNumber hscan
    rw [mark_append_cons hne hds (hmark hm)]
    exact isDateMark_of_char (hm.imp_right .inl)
  | monthName =>
    obtain ⟨⟨r, after⟩, hmonth, -⟩ := Option.bind_eq_some_iff.1 h
    obtain ⟨found, hscan, -⟩ := Option.map_eq_some_iff.1 hmonth
    obtain ⟨name, hname, hpre⟩ := exists_calendarName_of_scanMonth hscan
    exact isDateMark_of_calendarName hname hpre
  | day =>
    obtain ⟨⟨r, after⟩, hday, h⟩ := Option.bind_eq_some_iff.1 h
    obtain ⟨⟨r', after'⟩, hmonth, -⟩ := Option.bind_eq_some_iff.1 h
    obtain ⟨⟨n, rest⟩, hscan, heq⟩ := Option.map_eq_some_iff.1 hday
    cases heq
    obtain ⟨found, hname, -⟩ := Option.map_eq_some_iff.1 hmonth
    rw [hskip] at hscan
    exact isDateMark_of_number_and_month hscan hname

theorem isDateMark_of_read? {p : Pattern} (hp : p ∈ dateTimePatterns ++ datePatterns) {t : Instant}
    (hskip : Text.skipBlanks cs = cs) (h : p.read? cs = some t) : IsDateMark (mark cs) := by
  obtain ⟨opening, rest, hopening, rfl⟩ := exists_opening hp
  cases hscan : opening.scan {} cs with
  | some found => exact hopening.isDateMark hskip hscan
  | none =>
    rw [Pattern.read?, Pattern.scan_append, hscan] at h
    cases h

end Calendar

/-- What is read as a date has the mark of one. -/
theorem isDateMark_of_ofTrimmed? {t : Instant} (h : Instant.ofTrimmed? cs = some t) :
    IsDateMark (mark cs) := by
  cases cs with
  | nil => cases h
  | cons c rest =>
    by_cases hblank : Text.isBlank c = true
    · exact isDateMark_of_isBlank hblank
    · have hskip : Text.skipBlanks (c :: rest) = c :: rest := List.dropWhile_cons_of_neg hblank
      simp only [Instant.ofTrimmed?, Option.orElse_eq_orElse, Option.orElse_eq_or,
        Option.or_eq_some_iff] at h
      rcases h with h | ⟨-, h | ⟨-, h⟩⟩
      · exact Calendar.isDateMark_of_readTimestamp? h
      · exact Calendar.isDateMark_of_readMailDate? hskip h
      · obtain ⟨p, hp, hread⟩ := List.exists_of_findSome?_eq_some h
        exact Calendar.isDateMark_of_read? hp hskip hread

/-! ### The mark of a number -/

theorem Digits.isDigit_of_digitValue? {base v : Nat} (hbase : base ≤ 10)
    (h : Digits.digitValue? base c = some v) : Digits.isDigit c = true := by
  unfold Digits.digitValue? at h
  dsimp only at h
  rw [Digits.isDigit_iff]
  split_ifs at h <;> omega

/-- A word in a base up to ten starts with a plus sign or a digit. -/
theorem exists_head_of_wordOfDigits? {base n : Nat} (hbase : base ≤ 10)
    (h : Scalar.wordOfDigits? base cs = some n) :
    ∃ d ∈ cs.head?, d = '+' ∨ Digits.isDigit d = true := by
  cases cs with
  | nil => cases h
  | cons d rest =>
    refine ⟨d, rfl, ?_⟩
    by_cases hplus : d = '+'
    · exact .inl hplus
    · right
      have hunsigned : ∀ others, d :: rest = '+' :: others → False :=
        fun _ heq => hplus (List.cons.inj heq).1
      rw [Scalar.wordOfDigits?.eq_2 base _ hunsigned, if_neg (List.cons_ne_nil d rest)] at h
      obtain ⟨_, hvalue, -⟩ := Option.bind_eq_some_iff.1 h
      obtain ⟨_, hfirst, -⟩ := Option.bind_eq_some_iff.1 hvalue
      obtain ⟨v, hv, -⟩ := Option.map_eq_some_iff.1 hfirst
      exact Digits.isDigit_of_digitValue? hbase hv

/-- The mark of a literal of another base is its letter and all that follows. -/
theorem mark_of_base {letter : Char} (hletter : Digits.isDigit letter = false)
    (h : cs.map Char.toLower = '0' :: letter :: rest) : mark cs = letter :: rest := by
  obtain ⟨zero, others, rfl, hzero, h⟩ := List.map_eq_cons_iff.1 h
  obtain ⟨c, digits, rfl, hc, hrest⟩ := List.map_eq_cons_iff.1 h
  have hdigit : Digits.isDigit c = false := by rw [← isDigit_toLower, hc, hletter]
  have hzeros : ∀ d ∈ ['0'], Digits.isDigit d = true := List.forall_mem_singleton.2 rfl
  have hmark : mark (['0'] ++ c :: digits) = (c :: digits).map Char.toLower :=
    mark_append_cons (List.cons_ne_nil _ _) hzeros hdigit
  rw [eq_of_toLower_eq hzero (by decide), ← hc, ← hrest]
  exact hmark

theorem isNumberMark_of_ofChars? {d : Decimal} (h : Decimal.ofChars? cs = some d) :
    IsNumberMark (mark cs) := by
  unfold Decimal.ofChars? at h
  rw [mark]
  generalize Decimal.splitSign cs = signed at h ⊢
  obtain ⟨negative, unsigned⟩ := signed
  simp only [List.span_eq_takeWhile_dropWhile] at h
  cases hafter : unsigned.dropWhile Digits.isDigit with
  | nil => trivial
  | cons c rest =>
    rw [hafter] at h
    by_cases hpoint : c = '.'
    · subst hpoint
      exact .inl rfl
    · have hfraction : Decimal.splitFraction (c :: rest) = ([], c :: rest) := by
        unfold Decimal.splitFraction
        split
        · next heq => exact absurd (List.cons.inj heq).1 hpoint
        · rfl
      rw [hfraction] at h
      dsimp only at h
      split at h
      · cases h
      · obtain ⟨exponent, hexponent, -⟩ := Option.map_eq_some_iff.1 h
        rw [Decimal.exponentOfChars?] at hexponent
        split at hexponent
        · next hletter =>
          refine .inr (.inl ?_)
          rcases hletter with rfl | rfl <;> rfl
        · cases hexponent

/-- What is read as a number has the mark of one. -/
theorem isNumberMark_of_numberOfTrimmed? {x : Finite64}
    (h : Scalar.numberOfTrimmed? cs = some x) : IsNumberMark (mark cs) := by
  unfold Scalar.numberOfTrimmed? at h
  dsimp only at h
  split at h
  · next digits heq =>
    rw [mark_of_base (by decide) heq]
    simp [IsNumberMark]
  · next digits heq =>
    obtain ⟨n, hn, -⟩ := Option.bind_eq_some_iff.1 h
    obtain ⟨d, hd, hdigit⟩ := exists_head_of_wordOfDigits? (by decide) hn
    rw [mark_of_base (by decide) heq]
    exact .inr (.inr (.inr (.inr ⟨rfl, d, hd, hdigit⟩)))
  · next digits heq =>
    rw [mark_of_base (by decide) heq]
    simp [IsNumberMark]
  · obtain ⟨d, hd, -⟩ := Option.bind_eq_some_iff.1 h
    exact isNumberMark_of_ofChars? hd

/-! ### The mark of a word for a truth value -/

/-- The mark of a word for a truth value is the word. -/
theorem mark_of_boolLiteral? {s : String} {b : Bool} (h : Token.boolLiteral? s = some b) :
    mark (Text.trimChars s.toList) = "true".toList ∨
      mark (Text.trimChars s.toList) = "false".toList := by
  have hword : ∀ {word : String}, Token.asciiWord s = word →
      (Text.trimChars s.toList).map Char.toLower = word.toList := by
    rintro word rfl
    rw [Token.asciiWord, Text.asciiLowercase, Text.trim, String.toList_ofList, String.toList_ofList]
  have hmark : ∀ {letter : Char} {others : List Char}, 97 ≤ letter.toNat →
      (Text.trimChars s.toList).map Char.toLower = letter :: others →
      mark (Text.trimChars s.toList) = letter :: others := by
    intro letter others hsmall heq
    obtain ⟨c, rest, hcs, hc, -⟩ := List.map_eq_cons_iff.1 heq
    rw [← heq, hcs]
    exact mark_of_small (hc ▸ hsmall)
  unfold Token.boolLiteral? at h
  dsimp only at h
  split at h
  · next htrue => exact .inl (hmark (by decide) (hword htrue))
  · split at h
    · next hfalse => exact .inr (hmark (by decide) (hword hfalse))
    · cases h

theorem not_isNumberMark_word {m : List Char} (h : m = "true".toList ∨ m = "false".toList) :
    ¬IsNumberMark m := by
  rcases h with rfl | rfl <;> simp [IsNumberMark]

theorem not_isDateMark_word {m : List Char} (h : m = "true".toList ∨ m = "false".toList) :
    ¬IsDateMark m := by
  rintro (⟨c, hc, hmark⟩ | hname)
  · rcases h with rfl | rfl <;> cases hc <;> revert hmark <;> decide
  · rcases h with rfl | rfl <;> revert hname <;> decide

/-! ### Texts -/

/-- A text that denotes a number is no date. -/
theorem Instant.ofText?_eq_none_of_number {s : String} {x : Finite64}
    (h : Scalar.numberOfText? s = some x) : Instant.ofText? s = none := by
  rw [← Option.not_isSome_iff_eq_none, Option.isSome_iff_exists]
  rintro ⟨t, ht⟩
  have hnumber : IsNumberMark (mark (Text.trimChars s.toList)) := isNumberMark_of_numberOfTrimmed? h
  exact hnumber.not_isDateMark (isDateMark_of_ofTrimmed? ht)

/-- A word for a truth value is no number. -/
theorem Scalar.numberOfText?_eq_none_of_boolLiteral? {s : String} {b : Bool}
    (h : Token.boolLiteral? s = some b) : Scalar.numberOfText? s = none := by
  rw [← Option.not_isSome_iff_eq_none, Option.isSome_iff_exists]
  rintro ⟨x, hx⟩
  exact not_isNumberMark_word (mark_of_boolLiteral? h) (isNumberMark_of_numberOfTrimmed? hx)

/-- A word for a truth value is no date. -/
theorem Instant.ofText?_eq_none_of_boolLiteral? {s : String} {b : Bool}
    (h : Token.boolLiteral? s = some b) : Instant.ofText? s = none := by
  rw [← Option.not_isSome_iff_eq_none, Option.isSome_iff_exists]
  rintro ⟨t, ht⟩
  exact not_isDateMark_word (mark_of_boolLiteral? h) (isDateMark_of_ofTrimmed? ht)

end LooseRecords
