import LooseRecords.Calendar.Date
import LooseRecords.Text.Blank
import LooseRecords.Text.Digits

/-!
# Parts of written dates

What written dates are made of: numbers of a few digits, single characters, names of months and of
days. Each reader takes its part from the front of a text and gives the rest.
-/

namespace LooseRecords
namespace Calendar

open Text (skipBlanks isBlank)

/-- Up to `width` decimal digits from the front of a text, and the rest. -/
def splitDigits : (width : Nat) → List Char → List Char × List Char
  | width + 1, c :: rest =>
      if Digits.isDigit c then
        let (digits, after) := splitDigits width rest
        (c :: digits, after)
      else ([], c :: rest)
  | _, cs => ([], cs)

/-- A number of at least one and at most `width` digits. -/
def scanNumber (width : Nat) (cs : List Char) : Option (Nat × List Char) :=
  match splitDigits width cs with
  | ([], _) => none
  | (digits, rest) => some (Digits.value digits, rest)

/-- A number of exactly `width` digits. -/
def scanFixed (width : Nat) (cs : List Char) : Option (Nat × List Char) :=
  let (digits, rest) := splitDigits width cs
  if digits.length = width then some (Digits.value digits, rest) else none

/-- The given character. -/
def scanChar (expected : Char) : List Char → Option (List Char)
  | [] => none
  | c :: rest => if c = expected then some rest else none

/-- One blank or more. -/
def scanBlanks : List Char → Option (List Char)
  | [] => none
  | c :: rest => if isBlank c then some (skipBlanks rest) else none

/-- The given word, in any case. -/
def scanWord : (word : List Char) → List Char → Option (List Char)
  | [], cs => some cs
  | _ :: _, [] => none
  | w :: ws, c :: cs => if c.toLower = w.toLower then scanWord ws cs else none

/-- The milliseconds of the digits after a decimal point; digits beyond the third are dropped. -/
def millisOfFraction (digits : List Char) : Nat :=
  Digits.value ((digits ++ ['0', '0', '0']).take 3)

/-- A decimal point with at least one digit, if a point comes next; the milliseconds are zero else.
-/
def scanFraction : List Char → Option (Nat × List Char)
  | '.' :: rest =>
      match rest.span Digits.isDigit with
      | ([], _) => none
      | (digits, rest) => some (millisOfFraction digits, rest)
  | cs => some (0, cs)

/-- The names of the months, each cut after its third letter. -/
def monthNames : List (List Char × List Char) :=
  [(['J', 'a', 'n'], ['u', 'a', 'r', 'y']),
    (['F', 'e', 'b'], ['r', 'u', 'a', 'r', 'y']),
    (['M', 'a', 'r'], ['c', 'h']),
    (['A', 'p', 'r'], ['i', 'l']),
    (['M', 'a', 'y'], []),
    (['J', 'u', 'n'], ['e']),
    (['J', 'u', 'l'], ['y']),
    (['A', 'u', 'g'], ['u', 's', 't']),
    (['S', 'e', 'p'], ['t', 'e', 'm', 'b', 'e', 'r']),
    (['O', 'c', 't'], ['o', 'b', 'e', 'r']),
    (['N', 'o', 'v'], ['e', 'm', 'b', 'e', 'r']),
    (['D', 'e', 'c'], ['e', 'm', 'b', 'e', 'r'])]

/-- The number of the month whose name, cut after three letters, comes next; what follows the third
letter in its full name; and the rest of the text. -/
def scanMonthStem (cs : List Char) : Option (Nat × List Char × List Char) :=
  monthNames.zipIdx.findSome? fun ((stem, ending), i) =>
    (scanWord stem cs).map fun rest => (i + 1, ending, rest)

/-- The number of the month whose name of three letters comes next. -/
def scanShortMonth (cs : List Char) : Option (Nat × List Char) :=
  (scanMonthStem cs).map fun (month, _, rest) => (month, rest)

/-- The number of the month whose name comes next, in full or cut after three letters. -/
def scanMonth (cs : List Char) : Option (Nat × List Char) :=
  (scanMonthStem cs).map fun (month, ending, rest) => (month, (scanWord ending rest).getD rest)

/-- The days of the week with their names of three letters. -/
def weekdayNames : List (Weekday × List Char) :=
  [(.sunday, ['S', 'u', 'n']), (.monday, ['M', 'o', 'n']), (.tuesday, ['T', 'u', 'e']),
    (.wednesday, ['W', 'e', 'd']), (.thursday, ['T', 'h', 'u']), (.friday, ['F', 'r', 'i']),
    (.saturday, ['S', 'a', 't'])]

/-- The day of the week whose name of three letters comes next. -/
def scanWeekday (cs : List Char) : Option (Weekday × List Char) :=
  weekdayNames.findSome? fun (day, name) => (scanWord name cs).map fun rest => (day, rest)

/-- Hours and minutes of an offset from universal time, with `separator` between them; the result is
in minutes. An offset is less than a day. -/
def scanOffsetDigits (separator : List Char) (cs : List Char) : Option (Nat × List Char) := do
  let (hours, cs) ← scanFixed 2 cs
  let cs ← scanWord separator cs
  let (minutes, cs) ← scanFixed 2 cs
  if hours < 24 ∧ minutes < 60 then some (hours * 60 + minutes, cs) else none

end Calendar
end LooseRecords
