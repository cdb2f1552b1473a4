import LooseRecords.Number.Shortest

/-!
# Layout of numbers

How the digits of a shortest decimal are written: with a point among them and zeros around them, or
with one digit before the point and an exponent after the digits. A `Layout` holds the choices of a
format.
-/

namespace LooseRecords

/-- The choices of a number format. Exponents are those of the first significant digit. -/
structure Layout where
  /-- The smallest exponent that is written with a point. -/
  smallest : Int
  /-- The largest exponent that is written with a point. -/
  largest : Int
  /-- Whether a whole number ends in `.0` where it is written without exponent. -/
  pointZero : Bool
  /-- Whether the sign of a negative zero is shown. -/
  signedZero : Bool
  /-- Which of two equally near decimals is written. -/
  tie : Tie

namespace Layout

/-- Floating-point numbers in JSON texts keep a point, so that they are told from integers. -/
def json : Layout := ⟨-5, 15, true, true, .even⟩

/-- Numbers that become text are as short as possible: whole numbers have no point, zero has no
sign. -/
def plain : Layout := ⟨-6, 20, false, false, .up⟩

/-- The digits without the zeros at their end. -/
def significant (digits : List Char) : List Char :=
  (digits.reverse.dropWhile (· == '0')).reverse

/-- Digits with the point placed so that the first one has the given exponent. -/
def positional (l : Layout) (digits : List Char) (exponent : Int) : List Char :=
  if exponent < 0 then
    ['0', '.'] ++ List.replicate (exponent.natAbs - 1) '0' ++ digits
  else
    let before := exponent.toNat + 1
    if digits.length ≤ before then
      digits ++ List.replicate (before - digits.length) '0' ++
        (if l.pointZero then ['.', '0'] else [])
    else digits.take before ++ '.' :: digits.drop before

/-- One digit, a point if more follow, and the exponent with its sign. -/
def scientific (digits : List Char) (exponent : Int) : List Char :=
  digits.take 1 ++ (if digits.length ≤ 1 then [] else '.' :: digits.drop 1) ++
    ['e', if exponent < 0 then '-' else '+'] ++ Digits.decimal exponent.natAbs

/-- The text of the magnitude of a number. -/
def magnitude (l : Layout) (x : Finite64) : List Char :=
  if x.units = 0 then if l.pointZero then ['0', '.', '0'] else ['0']
  else
    let d := x.shortest l.tie
    let written := Digits.decimal d.significand
    let exponent := d.exponent + written.length - 1
    let digits := significant written
    if l.smallest ≤ exponent ∧ exponent ≤ l.largest then l.positional digits exponent
    else scientific digits exponent

/-- Whether a minus sign is written. -/
def showsSign (l : Layout) (x : Finite64) : Bool :=
  x.negative && (x.units != 0 || l.signedZero)

/-- The text of a finite number. -/
def write (l : Layout) (x : Finite64) : List Char :=
  if l.showsSign x then '-' :: l.magnitude x else l.magnitude x

end Layout

/-- The text of a number in the given layout; what is not finite is written in words. -/
def Binary64.toText (l : Layout) : Binary64 → String
  | .finite x => String.ofList (l.write x)
  | .infinite true => "-inf"
  | .infinite false => "inf"
  | .nan => "NaN"

end LooseRecords
