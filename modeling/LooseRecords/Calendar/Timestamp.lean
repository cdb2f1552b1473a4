import LooseRecords.Calendar.Instant
import LooseRecords.Calendar.Scan

/-!
# Internet timestamps

The timestamps of RFC 3339: a date and a time with all their digits, and an offset from universal
time, as in `2024-05-06T16:30:00+02:00`. A space may stand for the `T`, small letters for the
capitals, and the minus sign of typography for the hyphen of a negative offset.
-/

namespace LooseRecords
namespace Calendar

/-- The offset of a timestamp, in minutes. -/
def scanTimestampOffset : List Char → Option (Int × List Char)
  | [] => none
  | c :: rest =>
      if c = 'Z' ∨ c = 'z' then some (0, rest)
      else if c = '+' then
        (scanOffsetDigits [':'] rest).map fun (minutes, rest) => ((minutes : Int), rest)
      else if c = '-' ∨ c = '−' then
        (scanOffsetDigits [':'] rest).map fun (minutes, rest) => (-(minutes : Int), rest)
      else none

/-- The letter or blank between the date and the time of a timestamp. -/
def scanTimeMark : List Char → Option (List Char)
  | [] => none
  | c :: rest => if c = 'T' ∨ c = 't' ∨ c = ' ' then some rest else none

/-- Reads a timestamp that takes up the whole text. -/
def readTimestamp? (cs : List Char) : Option Instant := do
  let (year, cs) ← scanFixed 4 cs
  let cs ← scanChar '-' cs
  let (month, cs) ← scanFixed 2 cs
  let cs ← scanChar '-' cs
  let (day, cs) ← scanFixed 2 cs
  let cs ← scanTimeMark cs
  let (hour, cs) ← scanFixed 2 cs
  let cs ← scanChar ':' cs
  let (minute, cs) ← scanFixed 2 cs
  let cs ← scanChar ':' cs
  let (second, cs) ← scanFixed 2 cs
  let (milli, cs) ← scanFraction cs
  let (offset, cs) ← scanTimestampOffset cs
  if cs = [] then
    let date ← Date.of? year month day
    let time ← TimeOfDay.of? hour minute second milli
    Instant.ofLocal? date time offset
  else none

end Calendar
end LooseRecords
