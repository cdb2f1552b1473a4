import LooseRecords.Calendar.Instant
import LooseRecords.Calendar.Scan

/-!
# Date patterns

A pattern says which parts a written date has and in which order. Reading is lenient: blanks may
stand before a number, a blank of the pattern stands for any number of blanks, numbers need not be
padded, and a year with a sign may have any number of digits. Dates and times without a zone are in
universal time.
-/

namespace LooseRecords
namespace Calendar

open Text (skipBlanks)

/-- A part of a pattern. -/
inductive PatternItem where
  | char (c : Char)
  | blank
  | year
  | month
  | monthName
  | day
  | hour
  | minute
  | second
  | fraction
  deriving DecidableEq, Repr

/-- The parts of a written date, in order. -/
abbrev Pattern := List PatternItem

/-- The numbers that were read so far. A part that a pattern does not have is zero. -/
structure Reading where
  year : Int := 0
  month : Nat := 0
  day : Nat := 0
  hour : Nat := 0
  minute : Nat := 0
  second : Nat := 0
  milli : Nat := 0
  deriving DecidableEq, Repr

/-- A year: up to four digits, or a sign and any number of digits. -/
def scanYear : List Char → Option (Int × List Char)
  | '-' :: rest => (scanNumber rest.length rest).map fun (n, rest) => (-(n : Int), rest)
  | '+' :: rest => (scanNumber rest.length rest).map fun (n, rest) => ((n : Int), rest)
  | cs => (scanNumber 4 cs).map fun (n, rest) => ((n : Int), rest)

/-- Reads the part of a text that a part of a pattern stands for. -/
def PatternItem.scan (r : Reading) (cs : List Char) : PatternItem → Option (Reading × List Char)
  | .char c => (scanChar c cs).map fun rest => (r, rest)
  | .blank => some (r, skipBlanks cs)
  | .year => (scanYear (skipBlanks cs)).map fun (n, rest) => ({ r with year := n }, rest)
  | .month => (scanNumber 2 (skipBlanks cs)).map fun (n, rest) => ({ r with month := n }, rest)
  | .monthName => (scanMonth cs).map fun (n, rest) => ({ r with month := n }, rest)
  | .day => (scanNumber 2 (skipBlanks cs)).map fun (n, rest) => ({ r with day := n }, rest)
  | .hour => (scanNumber 2 (skipBlanks cs)).map fun (n, rest) => ({ r with hour := n }, rest)
  | .minute => (scanNumber 2 (skipBlanks cs)).map fun (n, rest) => ({ r with minute := n }, rest)
  | .second => (scanNumber 2 (skipBlanks cs)).map fun (n, rest) => ({ r with second := n }, rest)
  | .fraction => (scanFraction cs).map fun (n, rest) => ({ r with milli := n }, rest)

/-- Reads the parts of a pattern one after the other. -/
def Pattern.scan : Pattern → Reading → List Char → Option (Reading × List Char)
  | [], r, cs => some (r, cs)
  | item :: rest, r, cs => do
      let (r, cs) ← item.scan r cs
      Pattern.scan rest r cs

/-- The instant that the numbers make, in universal time. -/
def Reading.toInstant? (r : Reading) : Option Instant := do
  let date ← Date.of? r.year r.month r.day
  let time ← TimeOfDay.of? r.hour r.minute r.second r.milli
  Instant.ofLocal? date time 0

/-- Reads a date that takes up the whole text. -/
def Pattern.read? (p : Pattern) (cs : List Char) : Option Instant :=
  match p.scan {} cs with
  | some (r, []) => r.toInstant?
  | _ => none

/-! ### The patterns -/

/-- Year, month and day with a mark between them. -/
def yearFirst (mark : Char) : Pattern := [.year, .char mark, .month, .char mark, .day]

/-- Month, day and year with a mark between them. -/
def monthFirst (mark : Char) : Pattern := [.month, .char mark, .day, .char mark, .year]

/-- Hours and minutes. -/
def clock : Pattern := [.hour, .char ':', .minute]

/-- Hours, minutes and seconds. -/
def fullClock : Pattern := clock ++ [.char ':', .second]

/-- Dates with a time of day, in the order in which they are tried. -/
def dateTimePatterns : List Pattern :=
  [yearFirst '-' ++ [.char 'T'] ++ fullClock ++ [.fraction],
    yearFirst '-' ++ [.blank] ++ fullClock ++ [.fraction],
    yearFirst '-' ++ [.char 'T'] ++ clock,
    yearFirst '-' ++ [.blank] ++ clock,
    yearFirst '/' ++ [.blank] ++ fullClock,
    monthFirst '/' ++ [.blank] ++ fullClock,
    monthFirst '/' ++ [.blank] ++ clock]

/-- Dates without a time, which mean midnight, in the order in which they are tried. -/
def datePatterns : List Pattern :=
  [yearFirst '-', yearFirst '/', monthFirst '/', monthFirst '-',
    [.monthName, .blank, .day, .char ',', .blank, .year],
    [.monthName, .blank, .day, .blank, .year],
    [.day, .blank, .monthName, .blank, .year]]

end Calendar
end LooseRecords
