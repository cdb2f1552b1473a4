import LooseRecords.Proofs.Json.NumberText
import LooseRecords.Proofs.Number.Word
import LooseRecords.TypedValue

/-!
# Coercing integers

A raw value holds an integer as the nearest floating-point number, so under a field of integers it
becomes the rounded integer, or null where no word holds that.  The decimal text of an integer goes
the same way: it spells a number with an exponent of zero, which is rounded alike
(`Scalar.toNumber?_signedText`).
-/

namespace LooseRecords

/-! ### The text of an integer -/

/-- The digits of a number may stand before a point. -/
theorem Digits.isWholePart_decimal (n : Nat) : Json.IsWholePart (decimal n) := by
  refine ⟨⟨decimal_ne_nil n, fun c hc => isDigit_of_mem_decimal hc⟩, fun rest heq => ?_⟩
  by_cases hzero : n = 0
  · rw [hzero] at heq
    cases heq
    rfl
  · exact absurd heq (decimal_ne_cons_zero hzero rest)

/-- A written integer is a sign and digits. -/
theorem Digits.exists_spells_signed (n : Int) :
    ∃ p : Json.NumberParts, p.Spells (signed n) ∧ p.decimal = ⟨decide (n < 0), n.natAbs, 0⟩ := by
  obtain ⟨p, hnegative, -, -, hspells, hdecimal⟩ := Json.NumberParts.exists_spells
    (decide (n < 0)) (isWholePart_decimal n.natAbs) .none .none
  have hsigned : signed n = p.signChars ++ decimal n.natAbs := by
    unfold signed Json.NumberParts.signChars
    rw [hnegative]
    by_cases hneg : n < 0 <;> simp [hneg]
  refine ⟨p, ?_, ?_⟩
  · rw [hsigned]
    simpa using hspells
  · rw [hdecimal]
    simp [Decimal.ofParts, value_decimal]

namespace Scalar

/-- A text that is a written integer denotes the number nearest to the integer. -/
theorem toNumber?_signedText (n : Int) :
    (Scalar.text (Digits.signedText n)).toNumber? = (Binary64.ofInt n).finite? := by
  obtain ⟨p, hspells, hdecimal⟩ := Digits.exists_spells_signed n
  rw [toNumber?, numberOfText?, Digits.signedText, String.toList_ofList, hspells.trimChars,
    hspells.numberOfTrimmed?, hdecimal, Decimal.toBinary64_exponent_zero]

/-! ### Coercion -/

/-- A value that denotes a number is not blank. -/
theorem isBlank_of_toNumber? {raw : Scalar} {x : Finite64} (h : raw.toNumber? = some x) :
    raw.isBlank = false := by
  cases raw with
  | text s =>
    rw [← Bool.not_eq_true]
    intro hblank
    rw [toNumber?, numberOfText?, Text.isBlankText_iff_trimChars.1 hblank] at h
    cases h
  | null => cases h
  | bool | number => rfl

/-- A value that denotes an integer is coerced to the rounded integer, if a word holds it. -/
theorem coerce_integer_of_toNumber? {raw : Scalar} {a : Word}
    (hnumber : raw.toNumber? = (Binary64.ofInt a.val).finite?) :
    raw.coerce .integer = (Word.ofInt? (nearestInt a.val)).elim .null .integer := by
  obtain ⟨x, hx, htruncate, -⟩ := ofInt_spec (Nat.le_trans a.natAbs_val_le (by decide))
  have hblank : raw.isBlank = false := isBlank_of_toNumber? (x := x) (by rw [hnumber, hx]; rfl)
  have hread : raw.read? .integer = (Word.ofInt? (nearestInt a.val)).map TypedValue.integer := by
    show (raw.toNumber?.bind fun x => Word.ofInt? x.truncate).map TypedValue.integer = _
    rw [hnumber, hx]
    show (Word.ofInt? x.truncate).map TypedValue.integer = _
    rw [htruncate]
  rw [Scalar.coerce, hblank, hread]
  cases Word.ofInt? (nearestInt a.val) <;> rfl

/-- An integer and its decimal text are coerced alike. -/
theorem coerce_integer_ofJson {a : Word} {value : Json}
    (hvalue : value = .number (.integer (.ofWord a)) ∨ value = .string (Digits.signedText a.val)) :
    (Scalar.ofJson value).coerce .integer =
      (Word.ofInt? (nearestInt a.val)).elim .null .integer := by
  rcases hvalue with rfl | rfl
  · exact coerce_integer_of_toNumber? rfl
  · exact coerce_integer_of_toNumber? (toNumber?_signedText a.val)

end Scalar
end LooseRecords
