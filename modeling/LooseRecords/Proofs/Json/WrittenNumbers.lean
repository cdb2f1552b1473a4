import LooseRecords.Proofs.Json.NumberText
import LooseRecords.Proofs.Number.Layout
import LooseRecords.Proofs.Number.Shortest
import LooseRecords.Proofs.Token

/-!
# Written numbers read back

A floating-point number is written with the significant digits of its shortest decimal.  A layout puts
a point among them and zeros around them, or writes an exponent behind them; either way the text is
that of a JSON number, and its decimal has the magnitude of the shortest one.  As the nearest number
depends on the magnitude only, it is the number that was written (`Layout.exists_spells_write`), zero
with the sign that the layout shows.  So the text is not blank, and it is a token as it stands.  The
reader of JSON texts need not lead back to the number, but it never takes the text for one that is too
large.
-/

namespace LooseRecords

/-! ### Significant digits -/

namespace Layout

/-- Zeros at the end are all that is left out. -/
theorem exists_eq_significant_append (digits : List Char) :
    ∃ zeros, digits = significant digits ++ List.replicate zeros '0' := by
  refine ⟨(digits.reverse.takeWhile (· == '0')).length, ?_⟩
  have hzeros : digits.reverse.takeWhile (· == '0') =
      List.replicate (digits.reverse.takeWhile (· == '0')).length '0' :=
    List.eq_replicate_of_mem fun c hc => by simpa using List.mem_takeWhile_imp hc
  rw [significant, ← List.reverse_inj, List.reverse_append, List.reverse_reverse,
    List.reverse_replicate, ← hzeros, List.takeWhile_append_dropWhile]

/-- The last significant digit is not zero. -/
theorem getLast?_significant_ne (digits : List Char) : (significant digits).getLast? ≠ some '0' := by
  intro h
  rw [significant, List.getLast?_reverse] at h
  have hfirst := List.head?_dropWhile_not (· == '0') digits.reverse
  rw [h] at hfirst
  simp at hfirst

theorem value_replicate_zero (zeros : Nat) : Digits.value (List.replicate zeros '0') = 0 := by
  induction zeros with
  | zero => rfl
  | succ zeros ih => rw [List.replicate_succ, Digits.value_cons_zero, ih]

/-- Zeros at the end shift the value. -/
theorem value_append_zeros (digits : List Char) (zeros : Nat) :
    Digits.value (digits ++ List.replicate zeros '0') = Digits.value digits * 10 ^ zeros := by
  rw [Digits.value_append, value_replicate_zero, List.length_replicate, Nat.add_zero]

theorem isDigit_of_mem_replicate_zero {zeros : Nat} {c : Char} (h : c ∈ List.replicate zeros '0') :
    Digits.isDigit c = true := by
  rw [List.eq_of_mem_replicate h]
  rfl

/-- The value of digits is that of the significant ones, shifted by the zeros left out. -/
theorem value_significant (digits : List Char) :
    Digits.value (significant digits) * 10 ^ (digits.length - (significant digits).length) =
      Digits.value digits := by
  obtain ⟨zeros, hzeros⟩ := exists_eq_significant_append digits
  have hlength : digits.length - (significant digits).length = zeros := by
    conv_lhs => rw [hzeros]
    rw [List.length_append, List.length_replicate, ← hzeros]
    omega
  conv_rhs => rw [hzeros]
  rw [hlength, value_append_zeros]

theorem length_significant_le (digits : List Char) :
    (significant digits).length ≤ digits.length := by
  obtain ⟨zeros, hzeros⟩ := exists_eq_significant_append digits
  conv_rhs => rw [hzeros]
  rw [List.length_append]
  exact Nat.le_add_right _ _

/-- The value of significant digits does not end in a zero. -/
theorem not_dvd_value_significant {digits : List Char}
    (hdigits : ∀ c ∈ digits, Digits.isDigit c = true) (hne : significant digits ≠ []) :
    ¬10 ∣ Digits.value (significant digits) := by
  obtain ⟨front, c, hconcat⟩ := (List.eq_nil_or_concat (significant digits)).resolve_left hne
  rw [List.concat_eq_append] at hconcat
  have hzero : c ≠ '0' := by
    rintro rfl
    exact getLast?_significant_ne digits (by rw [hconcat, List.getLast?_concat])
  have hdigit := Digits.isDigit_iff.1
    (hdigits c (mem_of_mem_significant (by rw [hconcat]; simp)))
  have hcode : c.toNat ≠ 48 := fun h => hzero (Char.toNat_inj.1 h)
  have hvalue : Digits.digitValue c = c.toNat - 48 := rfl
  rw [hconcat, Digits.value_concat]
  omega

end Layout

theorem cast_mul_pow_mul_zpow (v n : Nat) (e : Int) :
    ((v * 10 ^ n : Nat) : ℚ) * 10 ^ e = v * 10 ^ (n + e) := by
  rw [zpow_add₀ (by norm_num), zpow_natCast]
  push_cast
  ring

/-! ### The significant digits of a decimal -/

namespace Decimal

/-- The significant digits of a decimal. -/
def significantDigits (d : Decimal) : List Char :=
  Layout.significant (Digits.decimal d.significand)

variable {d : Decimal}

theorem isDigit_of_mem_significantDigits {c : Char} (h : c ∈ d.significantDigits) :
    Digits.isDigit c = true :=
  Digits.isDigit_of_mem_decimal (Layout.mem_of_mem_significant h)

/-- The significant digits make the significand, up to the zeros left out. -/
theorem value_significantDigits (d : Decimal) :
    Digits.value d.significantDigits *
      10 ^ ((Digits.decimal d.significand).length - d.significantDigits.length) = d.significand := by
  have hvalue := Layout.value_significant (Digits.decimal d.significand)
  rwa [Digits.value_decimal] at hvalue

theorem value_significantDigits_le (d : Decimal) :
    Digits.value d.significantDigits ≤ d.significand := by
  conv_rhs => rw [← d.value_significantDigits]
  exact Nat.le_mul_of_pos_right _ (Nat.pow_pos (by decide))

theorem value_significantDigits_ne_zero (h : d.significand ≠ 0) :
    Digits.value d.significantDigits ≠ 0 := by
  intro hzero
  have hvalue := d.value_significantDigits
  rw [hzero, Nat.zero_mul] at hvalue
  exact h hvalue.symm

theorem isDigitRun_significantDigits (h : d.significand ≠ 0) :
    Json.IsDigitRun d.significantDigits := by
  refine ⟨?_, fun c hc => isDigit_of_mem_significantDigits hc⟩
  intro hnil
  exact value_significantDigits_ne_zero h (by rw [hnil]; rfl)

/-- The significant digits of a decimal other than zero have no zero in front. -/
theorem significantDigits_ne_cons_zero (h : d.significand ≠ 0) (rest : List Char) :
    d.significantDigits ≠ '0' :: rest := by
  intro heq
  obtain ⟨zeros, hzeros⟩ := Layout.exists_eq_significant_append (Digits.decimal d.significand)
  have hsignificant : Layout.significant (Digits.decimal d.significand) = '0' :: rest := heq
  rw [hsignificant, List.cons_append] at hzeros
  exact Digits.decimal_ne_cons_zero h _ hzeros

/-- The magnitude by the significant digits and the exponent of the first of them. -/
theorem magnitude_eq_significantDigits (d : Decimal) :
    d.magnitude = Digits.value d.significantDigits *
      (10 : ℚ) ^ (d.leadingExponent + 1 - d.significantDigits.length) := by
  have hlength : d.significantDigits.length ≤ (Digits.decimal d.significand).length :=
    Layout.length_significant_le _
  have hexponent : d.leadingExponent + 1 - d.significantDigits.length =
      ((Digits.decimal d.significand).length - d.significantDigits.length : Nat) + d.exponent := by
    unfold leadingExponent
    omega
  have hcast : (d.significand : ℚ) = Digits.value d.significantDigits *
      10 ^ ((Digits.decimal d.significand).length - d.significantDigits.length) := by
    exact_mod_cast d.value_significantDigits.symm
  rw [hexponent, zpow_add₀ (by norm_num), zpow_natCast, ← mul_assoc, magnitude, hcast]

/-- A whole number has no significant digit after the point. -/
theorem length_significantDigits_le (h : d.significand ≠ 0) {n : Nat} (hn : d.magnitude = n) :
    (d.significantDigits.length : Int) ≤ d.leadingExponent + 1 := by
  by_contra hmore
  obtain ⟨k, hk⟩ : ∃ k : Nat, d.leadingExponent + 1 - d.significantDigits.length = -(k + 1 : Nat) :=
    ⟨(d.significantDigits.length - d.leadingExponent - 2).toNat, by omega⟩
  rw [magnitude_eq_significantDigits, hk, zpow_neg, zpow_natCast, ← div_eq_mul_inv,
    div_eq_iff (by positivity)] at hn
  have hvalue : Digits.value d.significantDigits = n * 10 ^ (k + 1) := by exact_mod_cast hn
  refine Layout.not_dvd_value_significant (fun c hc => Digits.isDigit_of_mem_decimal hc)
    (isDigitRun_significantDigits h).ne_nil ?_
  show 10 ∣ Digits.value d.significantDigits
  rw [hvalue, Nat.pow_succ]
  exact ⟨n * 10 ^ k, by ring⟩

theorem magnitude_ofParts (negative : Bool) (whole fraction : List Char) (exponent : Int) :
    (ofParts negative whole fraction exponent).magnitude =
      Digits.value (whole ++ fraction) * (10 : ℚ) ^ (exponent - fraction.length) :=
  rfl

end Decimal

/-! ### Layouts -/

namespace Layout

open Json (IsDigitRun IsWholePart NumberParts SpellsExponent SpellsExponentSign SpellsFraction)

theorem isWholePart_zero : IsWholePart ['0'] :=
  ⟨⟨by simp, by simp [Digits.isDigit]⟩, by simp⟩

/-- The letter, the sign and the digits of an exponent. -/
theorem spellsExponent (exponent : Int) :
    SpellsExponent (some exponent)
      (['e', if exponent < 0 then '-' else '+'] ++ Digits.decimal exponent.natAbs) := by
  have hrun : IsDigitRun (Digits.decimal exponent.natAbs) :=
    ⟨Digits.decimal_ne_nil _, fun c hc => Digits.isDigit_of_mem_decimal hc⟩
  have hminus := SpellsExponent.letter (.inl rfl) .minus hrun
  have hplus := SpellsExponent.letter (.inl rfl) .plus hrun
  rw [Digits.value_decimal] at hminus hplus
  split_ifs with hneg
  · rw [if_pos rfl, show -(exponent.natAbs : Int) = exponent by omega] at hminus
    exact hminus
  · rw [if_neg Bool.false_ne_true, show (exponent.natAbs : Int) = exponent by omega] at hplus
    exact hplus

/-- The rest of some digits may stand after the point. -/
theorem isDigitRun_drop {digits : List Char} (hrun : IsDigitRun digits) {n : Nat}
    (hn : n < digits.length) : IsDigitRun (digits.drop n) :=
  ⟨by simpa using hn, fun c hc => hrun.isDigit c (List.mem_of_mem_drop hc)⟩

section Digits

variable {digits : List Char} (hrun : IsDigitRun digits) (hzero : ∀ rest, digits ≠ '0' :: rest)
include hrun hzero

/-- The first of some digits without a zero in front may stand before the point. -/
theorem isWholePart_take {n : Nat} (hn : n ≠ 0) : IsWholePart (digits.take n) := by
  refine ⟨⟨?_, fun c hc => hrun.isDigit c (List.mem_of_mem_take hc)⟩, ?_⟩
  · rw [Ne, List.take_eq_nil_iff]
    exact fun h => h.elim hn hrun.ne_nil
  · intro rest heq
    have hsplit := List.take_append_drop n digits
    rw [heq, List.cons_append] at hsplit
    exact absurd hsplit.symm (hzero _)

/-- Digits with zeros after them may stand before the point as well. -/
theorem isWholePart_append_zeros (zeros : Nat) :
    IsWholePart (digits ++ List.replicate zeros '0') := by
  refine ⟨⟨List.append_ne_nil_of_left_ne_nil hrun.ne_nil _,
    List.forall_mem_append.2 ⟨hrun.isDigit, fun _ => isDigit_of_mem_replicate_zero⟩⟩, ?_⟩
  intro rest heq
  obtain ⟨d, others, rfl⟩ := List.exists_cons_of_ne_nil hrun.ne_nil
  rw [List.cons_append, List.cons.injEq] at heq
  exact absurd (by rw [heq.1]) (hzero others)

/-- Digits with a point among them and zeros around them are a JSON number, which has no exponent, and no
more digits before the point than the exponent of the first one says. -/
theorem exists_spells_positional (l : Layout) (negative : Bool) (exponent : Int) :
    ∃ p : NumberParts, p.negative = negative ∧
      p.Spells (p.signChars ++ l.positional digits exponent) ∧
      p.decimal.magnitude =
        Digits.value digits * (10 : ℚ) ^ (exponent + 1 - digits.length) ∧
      p.exponent = none ∧ p.whole.length ≤ exponent.toNat + 1 := by
  have hpadded : digits.length ≤ exponent.toNat + 1 →
      (digits ++ List.replicate (exponent.toNat + 1 - digits.length) '0').length ≤
        exponent.toNat + 1 := by
    intro hlength
    rw [List.length_append, List.length_replicate]
    omega
  unfold positional
  dsimp only
  split_ifs with hneg hlength hpoint
  · have hfraction : IsDigitRun (List.replicate (exponent.natAbs - 1) '0' ++ digits) :=
      ⟨List.append_ne_nil_of_right_ne_nil _ hrun.ne_nil,
        List.forall_mem_append.2 ⟨fun _ => isDigit_of_mem_replicate_zero, hrun.isDigit⟩⟩
    obtain ⟨p, hnegative, hwhole, hnone, hspells, hdecimal⟩ :=
      NumberParts.exists_spells negative isWholePart_zero (.point hfraction) .none
    refine ⟨p, hnegative, by simpa using hspells, ?_, hnone, by simp [hwhole]⟩
    have hvalue : Digits.value (['0'] ++ (List.replicate (exponent.natAbs - 1) '0' ++ digits)) =
        Digits.value digits := by
      rw [List.singleton_append, Digits.value_cons_zero, Digits.value_append, value_replicate_zero,
        Nat.zero_mul, Nat.zero_add]
    rw [hdecimal, Decimal.magnitude_ofParts, Option.getD_some, Option.getD_none, hvalue,
      List.length_append, List.length_replicate]
    congr 2
    omega
  · obtain ⟨p, hnegative, hwhole, hnone, hspells, hdecimal⟩ := NumberParts.exists_spells negative
      (isWholePart_append_zeros hrun hzero (exponent.toNat + 1 - digits.length))
      (.point isWholePart_zero.toIsDigitRun) .none
    refine ⟨p, hnegative, by simpa using hspells, ?_, hnone, hwhole ▸ hpadded hlength⟩
    rw [hdecimal, Decimal.magnitude_ofParts, Option.getD_some, Option.getD_none, List.append_assoc,
      ← List.replicate_succ', value_append_zeros, cast_mul_pow_mul_zpow, List.length_singleton]
    congr 2
    omega
  · obtain ⟨p, hnegative, hwhole, hnone, hspells, hdecimal⟩ := NumberParts.exists_spells negative
      (isWholePart_append_zeros hrun hzero (exponent.toNat + 1 - digits.length)) .none .none
    refine ⟨p, hnegative, by simpa using hspells, ?_, hnone, hwhole ▸ hpadded hlength⟩
    rw [hdecimal, Decimal.magnitude_ofParts, Option.getD_none, Option.getD_none, List.append_nil,
      value_append_zeros, cast_mul_pow_mul_zpow, List.length_nil]
    congr 2
    omega
  · obtain ⟨p, hnegative, hwhole, hnone, hspells, hdecimal⟩ := NumberParts.exists_spells negative
      (isWholePart_take hrun hzero (Nat.succ_ne_zero exponent.toNat))
      (.point (isDigitRun_drop hrun (Nat.not_le.1 hlength))) .none
    refine ⟨p, hnegative, by simpa using hspells, ?_, hnone, hwhole ▸ List.length_take_le _ _⟩
    rw [hdecimal, Decimal.magnitude_ofParts, Option.getD_some, Option.getD_none,
      List.take_append_drop, List.length_drop]
    congr 2
    omega

/-- Digits with a point after the first one, and an exponent, are a JSON number with just these
digits. -/
theorem exists_spells_scientific (negative : Bool) (exponent : Int) :
    ∃ p : NumberParts, p.negative = negative ∧
      p.Spells (p.signChars ++ scientific digits exponent) ∧
      p.decimal.magnitude =
        Digits.value digits * (10 : ℚ) ^ (exponent + 1 - digits.length) ∧
      p.decimal.significand = Digits.value digits := by
  have hwhole := isWholePart_take hrun hzero (Nat.one_ne_zero)
  have hexponent := spellsExponent exponent
  unfold scientific
  by_cases hlength : digits.length ≤ 1
  · obtain ⟨p, hnegative, -, -, hspells, hdecimal⟩ :=
      NumberParts.exists_spells negative hwhole .none hexponent
    have hone : digits.length = 1 :=
      Nat.le_antisymm hlength (List.length_pos_iff.2 hrun.ne_nil)
    rw [Option.getD_none, Option.getD_some, List.take_of_length_le hlength] at hdecimal
    refine ⟨p, hnegative, by simpa [hlength] using hspells, ?_, ?_⟩
    · rw [hdecimal, Decimal.magnitude_ofParts, List.append_nil, List.length_nil, hone]
      congr 2
      omega
    · rw [hdecimal, Decimal.ofParts, List.append_nil]
  · obtain ⟨p, hnegative, -, -, hspells, hdecimal⟩ := NumberParts.exists_spells negative hwhole
      (.point (isDigitRun_drop hrun (Nat.not_le.1 hlength))) hexponent
    rw [Option.getD_some, Option.getD_some] at hdecimal
    refine ⟨p, hnegative, by simpa [hlength] using hspells, ?_, ?_⟩
    · rw [hdecimal, Decimal.magnitude_ofParts, List.take_append_drop 1 digits, List.length_drop]
      congr 2
      omega
    · rw [hdecimal, Decimal.ofParts, List.take_append_drop 1 digits]

end Digits

/-- The magnitude that is written for a number other than zero is a JSON number of the magnitude of the
shortest decimal.  The reader of JSON texts accepts it: without exponent it has not very many digits before
the point, and with one it has seventeen digits and does not exceed the shortest decimal of the largest
number. -/
theorem exists_spells_magnitude (l : Layout) {x : Finite64} (h : x.units ≠ 0) :
    ∃ p : NumberParts, p.negative = x.negative ∧ p.Spells (p.signChars ++ l.magnitude x) ∧
      p.decimal.magnitude = (x.shortest l.tie).magnitude ∧
      (l.largest < 288 → ∃ n, p.number = .ok n) := by
  have hne : (x.shortest l.tie).significand ≠ 0 := x.significand_shortest_ne_zero h
  have hrun := Decimal.isDigitRun_significantDigits hne
  have hzero := Decimal.significantDigits_ne_cons_zero hne
  rw [Decimal.magnitude_eq_significantDigits]
  unfold magnitude
  rw [if_neg h]
  dsimp only
  split
  · next hrange =>
    obtain ⟨p, hnegative, hspells, hmagnitude, hnone, hlength⟩ :=
      exists_spells_positional hrun hzero l x.negative (x.shortest l.tie).leadingExponent
    refine ⟨p, hnegative, hspells, hmagnitude, fun hlargest => ?_⟩
    have hexponent : (x.shortest l.tie).leadingExponent ≤ l.largest := hrange.2
    exact NumberParts.exists_number_of_length_le hnone (by omega)
  · obtain ⟨p, hnegative, hspells, hmagnitude, hsignificand⟩ :=
      exists_spells_scientific hrun hzero x.negative (x.shortest l.tie).leadingExponent
    refine ⟨p, hnegative, hspells, hmagnitude, fun _ => ?_⟩
    rw [← Decimal.magnitude_eq_significantDigits] at hmagnitude
    refine NumberParts.exists_number_of_magnitude_le ?_ ?_ ?_
    · rw [hsignificand]
      exact Decimal.value_significantDigits_ne_zero hne
    · rw [hsignificand]
      exact Nat.le_trans (Decimal.value_significantDigits_le _) (x.significand_shortest_le l.tie)
    · have hlargest := x.magnitude_shortest_le l.tie
      rw [Finite64.shortest_largest, ← hmagnitude] at hlargest
      rw [show p.decimal.negative = x.negative from hnegative]
      exact hlargest

/-- What is written for a finite number is a JSON number, and the number is the nearest one to it, where
zero has the sign that is shown.  The reader of JSON texts accepts it, unless the layout does without
exponents for very large numbers. -/
theorem exists_spells_write (l : Layout) (x : Finite64) :
    ∃ p : NumberParts, p.Spells (l.write x) ∧
      p.decimal.toBinary64 = .finite ⟨l.showsSign x, x.units, x.representable⟩ ∧
      (l.largest < 288 → ∃ n, p.number = .ok n) := by
  have hwrite {p : NumberParts} (hnegative : p.negative = l.showsSign x) :
      l.write x = p.signChars ++ l.magnitude x := by
    unfold write NumberParts.signChars
    rw [hnegative]
    split <;> rfl
  by_cases hzero : x.units = 0
  · have hspells : ∃ p : NumberParts, p.negative = l.showsSign x ∧
        p.Spells (p.signChars ++ l.magnitude x) ∧ p.decimal.significand = 0 ∧
        ∃ n, p.number = .ok n := by
      unfold magnitude
      rw [if_pos hzero]
      split
      · obtain ⟨p, hnegative, hwhole, hnone, hp, hdecimal⟩ :=
          NumberParts.exists_spells (l.showsSign x) isWholePart_zero
            (.point isWholePart_zero.toIsDigitRun) .none
        exact ⟨p, hnegative, hp, by rw [hdecimal]; rfl,
          NumberParts.exists_number_of_length_le hnone (by simp [hwhole])⟩
      · obtain ⟨p, hnegative, hwhole, hnone, hp, hdecimal⟩ :=
          NumberParts.exists_spells (l.showsSign x) isWholePart_zero .none .none
        exact ⟨p, hnegative, hp, by rw [hdecimal]; rfl,
          NumberParts.exists_number_of_length_le hnone (by simp [hwhole])⟩
    obtain ⟨p, hnegative, hp, hsignificand, hnumber⟩ := hspells
    refine ⟨p, hwrite hnegative ▸ hp, ?_, fun _ => hnumber⟩
    rw [Decimal.toBinary64, if_pos hsignificand, ← hnegative]
    simp [Finite64.zero, hzero, NumberParts.decimal, Decimal.ofParts]
  · have hshown : l.showsSign x = x.negative := by simp [showsSign, hzero]
    obtain ⟨p, hnegative, hp, hmagnitude, hnumber⟩ := l.exists_spells_magnitude hzero
    refine ⟨p, hwrite (hnegative.trans hshown.symm) ▸ hp, ?_, hnumber⟩
    have hsign : p.decimal.negative = (x.shortest l.tie).negative := by
      rw [Finite64.negative_shortest]
      exact hnegative
    simp only [hshown]
    exact (Decimal.toBinary64_congr hsign hmagnitude).trans (x.isReadFrom_shortest l.tie)

/-- A written number is a token. -/
theorem normalize_write (l : Layout) (x : Finite64) :
    Token.normalize (String.ofList (l.write x)) = String.ofList (l.write x) := by
  obtain ⟨p, hspells, -⟩ := l.exists_spells_write x
  apply String.toList_injective
  rw [Token.toList_normalize, String.toList_ofList, hspells.trimChars]
  exact Text.lowerAfter_eq_self (fun c hc => smallForm_of_writes (l.writes_write x c hc)) []

end Layout

/-- The text of a number is not blank. -/
theorem Binary64.isBlankText_toText (l : Layout) (x : Binary64) :
    Text.isBlankText (x.toText l) = false := by
  unfold toText
  split
  · next x =>
    obtain ⟨p, hspells, -⟩ := l.exists_spells_write x
    exact hspells.isBlankText_ofList
  · decide
  · decide
  · decide

end LooseRecords
