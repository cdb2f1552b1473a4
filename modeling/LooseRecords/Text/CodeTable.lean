/-!
# Tables of code points

A character class of the Unicode standard is a set of code points, and a case mapping moves some
code points to others. Both are recorded as sorted lists of runs, so that a look-up stops at the
first run that begins beyond the code point asked for.

The tables of this library follow Unicode 17.
-/

namespace LooseRecords
namespace Text

/-- Closed ranges of code points in ascending order. -/
abbrev CodeRanges := List (Nat × Nat)

/-- Whether some range holds the code point `n`. Ranges that begin beyond `n` are not looked at. -/
def CodeRanges.contains : CodeRanges → Nat → Bool
  | [], _ => false
  | (first, last) :: rest, n =>
      if n < first then false
      else if n ≤ last then true
      else CodeRanges.contains rest n

/-- Runs `(first, last, step)` of every `step`-th code point, in ascending order of `first`.
Alphabets that alternate capital and small letters are runs of step two. -/
abbrev CodeRuns := List (Nat × Nat × Nat)

/-- Whether some run meets the code point `n`. -/
def CodeRuns.contains : CodeRuns → Nat → Bool
  | [], _ => false
  | (first, last, step) :: rest, n =>
      if n < first then false
      else if n ≤ last ∧ (n - first) % step = 0 then true
      else CodeRuns.contains rest n

/-- Runs `(first, last, step, shift)`: every `step`-th code point from `first` to `last` is moved by
`shift`. -/
abbrev CodeShifts := List (Nat × Nat × Nat × Int)

/-- The code point that `n` is moved to, which is `n` itself where no run meets it. -/
def CodeShifts.apply : CodeShifts → Nat → Nat
  | [], n => n
  | (first, last, step, shift) :: rest, n =>
      if n < first then n
      else if n ≤ last ∧ (n - first) % step = 0 then (n + shift).toNat
      else CodeShifts.apply rest n

end Text
end LooseRecords
