import LooseRecords.Number.Layout
import LooseRecords.Proofs.Text.Digits
import LooseRecords.Proofs.Text.Lowercase

/-!
# The characters of written numbers

However a number is laid out, its text consists of digits, signs, a point and the letter of an
exponent (`Layout.writes_write`), and none of these has a smaller form.  Without an exponent there are
only digits and a point.
-/

namespace LooseRecords

namespace Layout

/-- The significant digits of a run are among its digits. -/
theorem mem_of_mem_significant {digits : List Char} {c : Char} (h : c ∈ significant digits) :
    c ∈ digits := by
  have hdropped : c ∈ digits.reverse.dropWhile (· == '0') := List.mem_reverse.1 h
  exact List.mem_reverse.1 ((List.dropWhile_suffix _).subset hdropped)

/-! ### Which characters are written -/

/-- Whether a character is used to write numbers. -/
def Writes (c : Char) : Prop :=
  Digits.isDigit c = true ∨ c ∈ ['-', '+', '.', 'e']

/-- Whether a character is used to write the magnitude of a number without exponent. -/
def WritesPlainly (c : Char) : Prop :=
  Digits.isDigit c = true ∨ c = '.'

theorem WritesPlainly.writes {c : Char} (h : WritesPlainly c) : Writes c := by
  rcases h with hdigit | rfl
  · exact .inl hdigit
  · exact .inr (by decide)

theorem writes_zero : Writes '0' :=
  .inl rfl

theorem writes_point : Writes '.' :=
  .inr (by decide)

/-- Digits with a point among them and zeros around them. -/
theorem writesPlainly_positional (l : Layout) {digits : List Char}
    (hdigits : ∀ c ∈ digits, Digits.isDigit c = true) (exponent : Int) :
    ∀ c ∈ l.positional digits exponent, WritesPlainly c := by
  have hall : ∀ c ∈ digits, WritesPlainly c := fun c hc => .inl (hdigits c hc)
  have hzero : WritesPlainly '0' := .inl rfl
  have hpoint : WritesPlainly '.' := .inr rfl
  have hzeros (n : Nat) : ∀ c ∈ List.replicate n '0', WritesPlainly c := by
    intro c hc
    rw [List.eq_of_mem_replicate hc]
    exact hzero
  unfold positional
  dsimp only
  split_ifs <;>
    simp only [List.forall_mem_append, List.forall_mem_cons, List.not_mem_nil, false_imp_iff,
      implies_true, and_true]
  · exact ⟨⟨⟨hzero, hpoint⟩, hzeros _⟩, hall⟩
  · exact ⟨⟨hall, hzeros _⟩, hpoint, hzero⟩
  · exact ⟨hall, hzeros _⟩
  · exact ⟨fun c hc => hall c (List.mem_of_mem_take hc), hpoint,
      fun c hc => hall c (List.mem_of_mem_drop hc)⟩

/-- Digits that all stand before the point need none, unless the layout wants it. -/
theorem isDigit_of_mem_positional {l : Layout} (hpoint : l.pointZero = false) {digits : List Char}
    (hdigits : ∀ c ∈ digits, Digits.isDigit c = true) {exponent : Int} (hexponent : 0 ≤ exponent)
    (hlength : (digits.length : Int) ≤ exponent + 1) :
    ∀ c ∈ l.positional digits exponent, Digits.isDigit c = true := by
  have hbefore : digits.length ≤ exponent.toNat + 1 := by omega
  unfold positional
  dsimp only
  rw [if_neg (Int.not_lt.2 hexponent), if_pos hbefore, hpoint, if_neg Bool.false_ne_true,
    List.append_nil]
  refine List.forall_mem_append.2 ⟨hdigits, fun c hc => ?_⟩
  rw [List.eq_of_mem_replicate hc]
  rfl

/-- Digits with a point after the first one, and an exponent. -/
theorem writes_scientific {digits : List Char} (hdigits : ∀ c ∈ digits, Digits.isDigit c = true)
    (exponent : Int) : ∀ c ∈ scientific digits exponent, Writes c := by
  have hall : ∀ c ∈ digits, Writes c := fun c hc => .inl (hdigits c hc)
  have hrest : ∀ c ∈ if digits.length ≤ 1 then [] else '.' :: digits.drop 1, Writes c := by
    split_ifs
    · simp
    · exact List.forall_mem_cons.2 ⟨writes_point, fun c hc => hall c (List.mem_of_mem_drop hc)⟩
  have hletter : Writes 'e' := .inr (by decide)
  have hsign : Writes (if exponent < 0 then '-' else '+') := by
    split_ifs
    · exact .inr (by decide)
    · exact .inr (by decide)
  simp only [scientific, List.forall_mem_append, List.forall_mem_cons, List.not_mem_nil,
    false_imp_iff, implies_true, and_true]
  exact ⟨⟨⟨fun c hc => hall c (List.mem_of_mem_take hc), hrest⟩, hletter, hsign⟩,
    fun c hc => .inl (Digits.isDigit_of_mem_decimal hc)⟩

/-- A finite number is written with digits, signs, a point and the letter of an exponent. -/
theorem writes_write (l : Layout) (x : Finite64) : ∀ c ∈ l.write x, Writes c := by
  have hmagnitude : ∀ c ∈ l.magnitude x, Writes c := by
    have hdigits (n : Nat) : ∀ c ∈ significant (Digits.decimal n), Digits.isDigit c = true :=
      fun c hc => Digits.isDigit_of_mem_decimal (mem_of_mem_significant hc)
    unfold magnitude
    dsimp only
    split_ifs
    · simp [writes_zero, writes_point]
    · simp [writes_zero]
    · exact fun c hc => (l.writesPlainly_positional (hdigits _) _ c hc).writes
    · exact writes_scientific (hdigits _) _
  unfold write
  split_ifs
  · exact List.forall_mem_cons.2 ⟨.inr (by decide), hmagnitude⟩
  · exact hmagnitude

/-- The sign apart, the characters of a number are those of its magnitude. -/
theorem mem_write_iff {l : Layout} {x : Finite64} {c : Char} (hc : c ≠ '-') :
    c ∈ l.write x ↔ c ∈ l.magnitude x := by
  unfold write
  split
  · rw [List.mem_cons, or_iff_right hc]
  · exact Iff.rfl

/-- The plain text of zero shows no sign. -/
theorem plain_write_zero {x : Finite64} (h : x.units = 0) : plain.write x = ['0'] := by
  rw [write, showsSign, magnitude, if_pos h, h]
  simp [plain]

/-- No capital letter is used to write numbers. -/
theorem smallForm_of_writes {c : Char} (h : Writes c) : Text.smallForm c = [c] := by
  rcases h with hdigit | hmem
  · have hlow : c.toNat < 0x41 := Nat.lt_of_le_of_lt (Digits.isDigit_iff.1 hdigit).2 (by decide)
    have hkept : Text.smallShifts.apply c.toNat = c.toNat := if_pos hlow
    have hne : c ≠ 'İ' := by
      rintro rfl
      revert hlow
      decide
    rw [Text.smallForm, if_neg hne, hkept, Char.ofNat_toNat]
  · simp only [List.mem_cons, List.not_mem_nil, or_false] at hmem
    rcases hmem with rfl | rfl | rfl | rfl <;> decide

end Layout
end LooseRecords
