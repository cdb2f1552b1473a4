import LooseRecords.Calendar.Instant
import LooseRecords.Calendar.Scan

/-!
# Dates of electronic mail

The dates in the headers of mail messages, after RFC 2822 with its obsolete forms: an optional day
of the week, which has to fit the date; day, month and year; hours and minutes with optional
seconds; and a zone, which is an offset, one of a few names, or a single letter. Comments in
parentheses may follow.
-/

namespace LooseRecords
namespace Calendar

open Text (skipBlanks)

/-- The full year of a year written with the given number of digits: two digits mean the years from
1950 to 2049, three digits count from 1900. -/
def fullYear (digits year : Nat) : Nat :=
  if digits = 2 then if year < 50 then year + 2000 else year + 1900
  else if digits = 3 then year + 1900
  else year

/-- A year of at least two digits. -/
def scanMailYear (cs : List Char) : Option (Nat × List Char) :=
  let (digits, rest) := cs.span Digits.isDigit
  if 2 ≤ digits.length then some (fullYear digits.length (Digits.value digits), rest) else none

/-- The day of the week in front of a date, with its comma. Where a name of a day stands, the comma
is due. -/
def scanMailWeekday (cs : List Char) : Option (Option Weekday × List Char) :=
  match scanWeekday cs with
  | none => some (none, cs)
  | some (day, rest) => (scanChar ',' rest).map fun rest => (some day, rest)

/-- The seconds after a colon, if a colon comes next. -/
def scanMailSecond (cs : List Char) : Option (Nat × List Char) :=
  match scanChar ':' (skipBlanks cs) with
  | some rest => scanFixed 2 rest
  | none => some (0, cs)

/-- The zones with a name, in hours ahead of universal time. -/
def namedZones : List (List Char × Int) :=
  [(['g', 'm', 't'], 0), (['u', 't'], 0), (['z'], 0), (['e', 'd', 't'], -4), (['e', 's', 't'], -5),
    (['c', 'd', 't'], -5), (['c', 's', 't'], -6), (['m', 'd', 't'], -6), (['m', 's', 't'], -7),
    (['p', 'd', 't'], -7), (['p', 's', 't'], -8)]

/-- The offset of a zone that is given by letters, in minutes. A single letter other than `j` is
taken for universal time. -/
def zoneOfName? (name : List Char) : Option Int :=
  let small := name.map Char.toLower
  match namedZones.lookup small with
  | some hours => some (hours * 60)
  | none => if small.length = 1 ∧ small ≠ ['j'] then some 0 else none

/-- The offset of a zone in minutes. -/
def scanZone (cs : List Char) : Option (Int × List Char) :=
  match cs.span Char.isAlpha with
  | ([], '+' :: rest) =>
      (scanOffsetDigits [] rest).map fun (minutes, rest) => ((minutes : Int), rest)
  | ([], '-' :: rest) =>
      (scanOffsetDigits [] rest).map fun (minutes, rest) => (-(minutes : Int), rest)
  | ([], _) => none
  | (name, rest) => (zoneOfName? name).map fun offset => (offset, rest)

/-- What follows a comment of which `depth + 1` parentheses are open. A backslash takes the meaning
from the character after it. -/
def skipComment : (depth : Nat) → (escaped : Bool) → List Char → Option (List Char)
  | _, _, [] => none
  | depth, true, _ :: rest => skipComment depth false rest
  | depth, false, c :: rest =>
      if c = '\\' then skipComment depth true rest
      else if c = '(' then skipComment (depth + 1) false rest
      else if c = ')' then
        match depth with
        | 0 => some rest
        | depth + 1 => skipComment depth false rest
      else skipComment depth false rest

/-- Whether the text holds nothing but comments. Each of them takes at least one character, so that
`fuel` beyond the length of the text is never used up. -/
def isComments : (fuel : Nat) → List Char → Bool
  | 0, _ => false
  | fuel + 1, cs =>
      if cs.isEmpty then true
      else
        match skipBlanks cs with
        | '(' :: rest =>
            match skipComment 0 false rest with
            | some rest => isComments fuel rest
            | none => false
        | _ => false

/-- Reads a date of a mail message that takes up the whole text. -/
def readMailDate? (cs : List Char) : Option Instant := do
  let (weekday, cs) ← scanMailWeekday (skipBlanks cs)
  let (day, cs) ← scanNumber 2 (skipBlanks cs)
  let cs ← scanBlanks cs
  let (month, cs) ← scanShortMonth cs
  let cs ← scanBlanks cs
  let (year, cs) ← scanMailYear cs
  let cs ← scanBlanks cs
  let (hour, cs) ← scanFixed 2 cs
  let cs ← scanChar ':' (skipBlanks cs)
  let (minute, cs) ← scanFixed 2 (skipBlanks cs)
  let (second, cs) ← scanMailSecond cs
  let cs ← scanBlanks cs
  let (offset, cs) ← scanZone cs
  if isComments (cs.length + 1) cs then
    let date ← Date.of? year month day
    let time ← TimeOfDay.of? hour minute second 0
    if weekday.all (· = Weekday.ofDayNumber date.dayNumber) then Instant.ofLocal? date time offset
    else none
  else none

end Calendar
end LooseRecords
