import LooseRecords.Number.Binary64
import Mathlib.Algebra.Group.Nat.Defs

/-!
# Words

A word holds the whole numbers in the range of 64 bits with a sign, and `Word.ofInt?` finds the word
of each number in this range.
-/

namespace LooseRecords
namespace Word

theorem natAbs_val_le (n : Word) : n.val.natAbs ≤ 2 ^ 63 := by
  have := n.lower
  have := n.upper
  omega

/-- A number has no word exactly when it lies outside the range. -/
theorem ofInt?_eq_none_iff {n : Int} :
    ofInt? n = none ↔ ¬(-9223372036854775808 ≤ n ∧ n < 9223372036854775808) := by
  unfold ofInt?
  split
  · next h => simp [h]
  · next h => simp [h]

theorem ofInt?_val (n : Word) : ofInt? n.val = some n :=
  dif_pos ⟨n.lower, n.upper⟩

theorem val_of_ofInt? {n : Int} {w : Word} (h : ofInt? n = some w) : w.val = n := by
  unfold ofInt? at h
  split at h
  · cases h
    rfl
  · cases h

end Word
end LooseRecords
