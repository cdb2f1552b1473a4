import LooseRecords.Proofs.Text.Blank
import LooseRecords.Text.Digits
import Mathlib.Algebra.Group.Nat.Defs
import Mathlib.Data.List.Induction
import Mathlib.Data.List.TakeDrop
import Mathlib.Tactic.Ring

/-!
# Written numbers

What `Digits.decimal` writes: at least one digit, nothing but digits, and no more of them than the
size of the number asks for.  Digits are neither blank nor letters, so a written number stands
untouched by trimming and by small letters, and a run of digits is cut off exactly where it ends.
The first digits of a number are its quotient by a power of ten (`Digits.value_take`).
-/

namespace LooseRecords

/-- A run of characters with a property is split off where the property ends. -/
theorem span_append_of_all {p : Char → Bool} {cs rest : List Char} (hall : ∀ c ∈ cs, p c = true)
    (hrest : ∀ c ∈ rest.head?, p c = false) : (cs ++ rest).span p = (cs, rest) := by
  rw [List.span_eq_takeWhile_dropWhile, List.takeWhile_append_of_pos hall,
    List.dropWhile_append_of_pos hall]
  cases rest with
  | nil => simp
  | cons c rest =>
    have hc : p c = false := hrest c rfl
    simp [hc]

/-! ### Characters of digits -/

namespace Digits

/-- A decimal digit by its code point. -/
theorem isDigit_iff {c : Char} : isDigit c = true ↔ 48 ≤ c.toNat ∧ c.toNat ≤ 57 := by
  simp [isDigit]

theorem isDigit_digitChar {d : Nat} (h : d < 10) : isDigit (digitChar d) = true := by
  have all : ∀ e ∈ List.range 10, isDigit (digitChar e) = true := by decide
  exact all d (List.mem_range.2 h)

/-- Digits are not blank. -/
theorem isBlank_of_isDigit {c : Char} (h : isDigit c = true) : Text.isBlank c = false := by
  rw [isDigit_iff] at h
  unfold Text.isBlank Text.blankCharacters
  simp only [Text.CodeRanges.contains]
  rw [if_neg (by omega), if_neg (by omega), if_neg (by omega), if_neg (by omega), if_pos (by omega)]

/-- Digits have no small form of their own. -/
theorem toLower_of_isDigit {c : Char} (h : isDigit c = true) : c.toLower = c := by
  rw [isDigit_iff] at h
  have hval : c.val.toNat ≤ 57 := h.2
  unfold Char.toLower
  rw [dif_neg]
  rintro ⟨hlower, -⟩
  have hupper : (65 : Nat) ≤ c.val.toNat := UInt32.le_iff_toNat_le.1 hlower
  omega

theorem ne_of_isDigit {c d : Char} (hc : isDigit c = true) (hd : isDigit d = false) : c ≠ d := by
  rintro rfl
  rw [hc] at hd
  cases hd

/-! ### Digits of a number -/

/-- Writing a number puts a run of digits in front of what is there, not longer than a given width
that the number fits. -/
theorem exists_digitsOnto_eq (fuel : Nat) : ∀ (n : Nat) (tail : List Char), ∃ ds,
    digitsOnto 10 fuel n tail = ds ++ tail ∧ (∀ c ∈ ds, isDigit c = true) ∧
      (fuel ≠ 0 → ds ≠ []) ∧ ∀ width, n < 10 ^ (width + 1) → ds.length ≤ width + 1 := by
  induction fuel with
  | zero => exact fun n tail => ⟨[], rfl, by simp, by simp, by simp⟩
  | succ fuel ih =>
    intro n tail
    rw [digitsOnto]
    split
    · next small =>
      refine ⟨[digitChar n], rfl, ?_, by simp, fun width _ => by simp⟩
      rintro c hc
      rw [List.mem_singleton.1 hc]
      exact isDigit_digitChar small
    · next large =>
      obtain ⟨ds, hds, hdigits, -, hlength⟩ := ih (n / 10) (digitChar (n % 10) :: tail)
      refine ⟨ds ++ [digitChar (n % 10)], by rw [hds]; simp, ?_, by simp, ?_⟩
      · intro c hc
        rcases List.mem_append.1 hc with hc | hc
        · exact hdigits c hc
        · rw [List.mem_singleton.1 hc]
          exact isDigit_digitChar (Nat.mod_lt n (by decide))
      · intro width hn
        rw [List.length_append, List.length_singleton]
        cases width with
        | zero => exact absurd hn (by simpa using large)
        | succ width =>
          have hquotient : n / 10 < 10 ^ (width + 1) := by
            rw [Nat.pow_succ] at hn
            omega
          exact Nat.succ_le_succ (hlength width hquotient)

/-- A written number consists of digits. -/
theorem isDigit_of_mem_decimal {n : Nat} {c : Char} (h : c ∈ decimal n) : isDigit c = true := by
  obtain ⟨ds, hds, hdigits, -, -⟩ := exists_digitsOnto_eq (n.log2 + 1) n []
  rw [decimal, hds, List.append_nil] at h
  exact hdigits c h

/-- The characters of a number written as a text. -/
theorem toList_text (n : Nat) : (text n).toList = decimal n :=
  String.toList_ofList

theorem decimal_ne_nil (n : Nat) : decimal n ≠ [] := by
  obtain ⟨ds, hds, -, hne, -⟩ := exists_digitsOnto_eq (n.log2 + 1) n []
  rw [decimal, hds, List.append_nil]
  exact hne (Nat.succ_ne_zero _)

/-- A number below a power of ten has no more digits than the exponent says. -/
theorem length_decimal_le {n width : Nat} (hwidth : 0 < width) (h : n < 10 ^ width) :
    (decimal n).length ≤ width := by
  obtain ⟨ds, hds, -, -, hlength⟩ := exists_digitsOnto_eq (n.log2 + 1) n []
  rw [decimal, hds, List.append_nil]
  obtain ⟨width, rfl⟩ := Nat.exists_eq_add_one_of_ne_zero (Nat.pos_iff_ne_zero.1 hwidth)
  exact hlength width h

/-! ### Values of digits -/

theorem value_concat (cs : List Char) (c : Char) :
    value (cs ++ [c]) = 10 * value cs + digitValue c :=
  List.foldl_append

/-- Further digits shift the value of those before them. -/
theorem value_append (cs ds : List Char) :
    value (cs ++ ds) = value cs * 10 ^ ds.length + value ds := by
  induction ds using List.reverseRecOn with
  | nil => simp [value]
  | append_singleton ds d ih =>
    rw [← List.append_assoc, value_concat, value_concat, ih, List.length_append,
      List.length_singleton, Nat.pow_succ]
    ring

theorem value_lt {cs : List Char} (h : ∀ c ∈ cs, isDigit c = true) : value cs < 10 ^ cs.length := by
  induction cs using List.reverseRecOn with
  | nil => decide
  | append_singleton cs c ih =>
    obtain ⟨hcs, hc⟩ := List.forall_mem_append.1 h
    have hdigit : digitValue c < 10 := by
      have := isDigit_iff.1 (hc c List.mem_cons_self)
      unfold digitValue
      omega
    have hvalue := ih hcs
    rw [value_concat, List.length_append, List.length_singleton, Nat.pow_succ]
    omega

/-- The first digits of a number are its quotient by a power of ten. -/
theorem value_take {cs : List Char} (h : ∀ c ∈ cs, isDigit c = true) (k : Nat) :
    value (cs.take k) = value cs / 10 ^ (cs.length - k) := by
  have hlast : value (cs.drop k) < 10 ^ (cs.drop k).length :=
    value_lt fun c hc => h c (List.mem_of_mem_drop hc)
  have hsplit := value_append (cs.take k) (cs.drop k)
  rw [List.take_append_drop] at hsplit
  rw [hsplit, ← List.length_drop, Nat.mul_comm, Nat.mul_add_div (Nat.pow_pos (by decide)),
    Nat.div_eq_of_lt hlast, Nat.add_zero]

theorem value_cons_zero (cs : List Char) : value ('0' :: cs) = value cs :=
  rfl

/-- A number is below the power of ten that the count of its digits says. -/
theorem lt_pow_length (n : Nat) : n < 10 ^ (decimal n).length := by
  have hvalue := value_lt fun c (hc : c ∈ decimal n) => isDigit_of_mem_decimal hc
  rwa [value_decimal] at hvalue

/-- A number lies between the powers of ten that the count of its digits says. -/
theorem pow_le_and_lt_pow {n : Nat} (h : n ≠ 0) :
    10 ^ ((decimal n).length - 1) ≤ n ∧ n < 10 ^ (decimal n).length := by
  refine ⟨?_, lt_pow_length n⟩
  by_cases hone : (decimal n).length - 1 = 0
  · rw [hone, Nat.pow_zero]
    exact Nat.pos_of_ne_zero h
  · by_contra hlt
    have hlength := length_decimal_le (Nat.pos_of_ne_zero hone) (Nat.not_le.1 hlt)
    omega

/-- A number other than zero is written without a zero in front. -/
theorem decimal_ne_cons_zero {n : Nat} (h : n ≠ 0) (rest : List Char) : decimal n ≠ '0' :: rest := by
  intro heq
  have hlower := (pow_le_and_lt_pow h).1
  have hrest : value rest < 10 ^ rest.length :=
    value_lt fun c hc => isDigit_of_mem_decimal (n := n) (heq ▸ List.mem_cons_of_mem _ hc)
  have hvalue : value rest = n := by
    rw [← value_cons_zero, ← heq, value_decimal]
  rw [heq, List.length_cons, Nat.add_sub_cancel] at hlower
  omega

/-! ### Padded numbers -/

/-- Leading zeros do not change the value. -/
theorem value_padLeft (width : Nat) (cs : List Char) : value (padLeft width cs) = value cs := by
  unfold padLeft
  induction width - cs.length with
  | zero => rfl
  | succ k ih => rw [List.replicate_succ, List.cons_append, value_cons_zero, ih]

theorem length_padLeft {width : Nat} {cs : List Char} (h : cs.length ≤ width) :
    (padLeft width cs).length = width := by
  unfold padLeft
  rw [List.length_append, List.length_replicate]
  omega

/-- A padded number consists of digits. -/
theorem isDigit_of_mem_padLeft_decimal {n width : Nat} {c : Char}
    (h : c ∈ padLeft width (decimal n)) : isDigit c = true := by
  rcases List.mem_append.1 h with hzero | hdigit
  · rw [List.eq_of_mem_replicate hzero]
    decide
  · exact isDigit_of_mem_decimal hdigit

theorem padLeft_decimal_ne_nil (width n : Nat) : padLeft width (decimal n) ≠ [] :=
  List.append_ne_nil_of_right_ne_nil _ (decimal_ne_nil n)

/-- A padded number starts with a digit. -/
theorem isDigit_of_mem_head?_padLeft {width n : Nat} {c : Char} {rest : List Char}
    (h : c ∈ (padLeft width (decimal n) ++ rest).head?) : isDigit c = true := by
  obtain ⟨d, ds, hds⟩ := List.exists_cons_of_ne_nil (padLeft_decimal_ne_nil width n)
  rw [hds] at h
  cases h
  exact isDigit_of_mem_padLeft_decimal (hds ▸ List.mem_cons_self)

end Digits
end LooseRecords
