import LooseRecords.Proofs.Json.WrittenNumbers
import LooseRecords.TypedValue

/-!
# Numbers as plain texts

Under a field of texts or of categories a number becomes its plain text.  The text is a JSON number that
is not too large for the reader of JSON texts, and what denotes a number as a text is read back as the
number, up to the sign of zero; hence numbers that are not equal are still told apart by their texts
(`Finite64.plain_text_faithful`).

The layout goes by the size of the shortest decimal, but what is meant is the size of the number
itself: the text has an exponent below a millionth and from a sextillion on
(`Finite64.mem_letter_plain_iff`).  It has no point where the number is whole and below a sextillion.
-/

namespace LooseRecords

/-! ### The shape of the text -/

namespace Layout

variable {l : Layout} {x : Finite64}

/-- The letter of an exponent is written where the first digit is too far from the point. -/
theorem mem_letter_write_iff (h : x.units ≠ 0) :
    'e' ∈ l.write x ↔ ¬(l.smallest ≤ (x.shortest l.tie).leadingExponent ∧
      (x.shortest l.tie).leadingExponent ≤ l.largest) := by
  have hdigits (n : Nat) : ∀ c ∈ significant (Digits.decimal n), Digits.isDigit c = true :=
    fun c hc => Digits.isDigit_of_mem_decimal (mem_of_mem_significant hc)
  rw [mem_write_iff (by decide), magnitude, if_neg h]
  dsimp only
  split
  · next hrange =>
    refine iff_of_false (fun hmem => ?_) (not_not_intro hrange)
    rcases l.writesPlainly_positional (hdigits _) _ 'e' hmem with hdigit | hpoint
    · cases hdigit
    · cases hpoint
  · next hrange => exact iff_of_true (by simp [scientific]) hrange

/-- The letter of an exponent is a small one. -/
theorem capital_notMem_write (l : Layout) (x : Finite64) : 'E' ∉ l.write x := by
  intro hmem
  rcases l.writes_write x 'E' hmem with hdigit | hother
  · cases hdigit
  · revert hother
    decide

/-- A whole number that is written without exponent has no point, unless the layout wants it. -/
theorem point_notMem_write (hpoint : l.pointZero = false) (hsmallest : l.smallest ≤ 0)
    (hwhole : x.IsWhole)
    (hlargest : x.units ≠ 0 → (x.shortest l.tie).leadingExponent ≤ l.largest) :
    '.' ∉ l.write x := by
  rw [mem_write_iff (by decide), magnitude]
  split
  · simp [hpoint]
  · next hzero =>
    have hne : (x.shortest l.tie).significand ≠ 0 := x.significand_shortest_ne_zero hzero
    obtain ⟨n, hn⟩ := x.exists_magnitude_shortest_eq l.tie hwhole hzero
    have hpositive : n ≠ 0 := by
      rintro rfl
      rw [Decimal.magnitude, Nat.cast_zero, mul_eq_zero, Nat.cast_eq_zero] at hn
      exact hn.elim hne (zpow_ne_zero _ (by norm_num))
    have hexponent : 0 ≤ (x.shortest l.tie).leadingExponent := by
      rw [Decimal.le_leadingExponent_iff hne, hn, zpow_zero]
      exact_mod_cast Nat.pos_of_ne_zero hpositive
    dsimp only
    split
    · intro hmem
      have hdigit := isDigit_of_mem_positional hpoint
        (fun c hc => Decimal.isDigit_of_mem_significantDigits hc) hexponent
        (Decimal.length_significantDigits_le hne hn) '.' hmem
      cases hdigit
    · next hrange =>
      exact absurd ⟨le_trans hsmallest hexponent, hlargest hzero⟩ hrange

end Layout

namespace Finite64

/-! ### The size of a number -/

/-- The number without its sign. -/
def abs (x : Finite64) : Finite64 :=
  ⟨false, x.units, x.representable⟩

/-- Whether a number without its sign is less than the number that a power of ten is read as.  It is
not to be unfolded by the way, as this computes the power. -/
@[irreducible]
def IsBelowPower (x : Finite64) (k : Int) : Prop :=
  Binary64.finite x.abs < (⟨false, 1, k⟩ : Decimal).toBinary64

/-- The shortest decimal of a number is at least a power of ten exactly where the number is at least
what the power is read as, if this is so for the two numbers of this size. -/
theorem le_leadingExponent_iff_not_isBelowPower {tie : Tie} {k : Int}
    (hself : ∀ negative, ((⟨negative, 1, k⟩ : Decimal).toBinary64.finite?.any fun power =>
      decide (k ≤ (power.shortest tie).leadingExponent)) = true)
    {x : Finite64} (h : x.units ≠ 0) :
    k ≤ (x.shortest tie).leadingExponent ↔ ¬x.IsBelowPower k := by
  have hpower (negative : Bool) : ∃ power, (⟨negative, 1, k⟩ : Decimal).toBinary64 = .finite power ∧
      k ≤ (power.shortest tie).leadingExponent := by
    have hle := hself negative
    generalize (⟨negative, 1, k⟩ : Decimal).toBinary64 = read at hle
    cases read with
    | finite power =>
      rw [Binary64.finite?, Option.any_some, decide_eq_true_eq] at hle
      exact ⟨power, rfl, hle⟩
    | infinite | nan => cases hle
  obtain ⟨power, hread, -⟩ := hpower false
  obtain ⟨hsign, hunits⟩ := Decimal.toBinary64_eq_finite_iff.1 hread
  have hself : x.units = power.units → k ≤ (x.shortest tie).leadingExponent := by
    intro heq
    -- The number is the power with one of the signs.
    have hx : (⟨x.negative, 1, k⟩ : Decimal).toBinary64 = .finite x :=
      Decimal.toBinary64_eq_finite_iff.2 ⟨rfl, hunits.trans heq.symm⟩
    obtain ⟨signed, hsigned, hle⟩ := hpower x.negative
    rw [hx] at hsigned
    cases hsigned
    exact hle
  have hless : x.IsBelowPower k ↔ x.units < power.units := by
    rw [IsBelowPower, hread]
    show x.abs.signedUnits < power.signedUnits ↔ _
    rw [signedUnits, signedUnits, ← hsign]
    exact Int.ofNat_lt
  rw [le_leadingExponent_shortest_iff hread hself h, hless, Nat.not_lt]

/-- Both signs of a millionth are written without exponent. -/
theorem millionth_le_leadingExponent : ∀ negative,
    ((⟨negative, 1, -6⟩ : Decimal).toBinary64.finite?.any fun power =>
      decide (-6 ≤ (power.shortest .up).leadingExponent)) = true := by
  decide +kernel

/-- Both signs of a sextillion are written with an exponent. -/
theorem sextillion_le_leadingExponent : ∀ negative,
    ((⟨negative, 1, 21⟩ : Decimal).toBinary64.finite?.any fun power =>
      decide (21 ≤ (power.shortest .up).leadingExponent)) = true := by
  decide +kernel

/-- The plain text of a number has an exponent below a millionth and from a sextillion on, zero
apart. -/
theorem mem_letter_plain_iff (x : Finite64) :
    'e' ∈ Layout.plain.write x ↔
      x.units ≠ 0 ∧ (x.IsBelowPower (-6) ∨ ¬x.IsBelowPower 21) := by
  by_cases h : x.units = 0
  · refine iff_of_false ?_ fun hletter => hletter.1 h
    rw [Layout.plain_write_zero h]
    decide
  · have hsmallest := le_leadingExponent_iff_not_isBelowPower millionth_le_leadingExponent h
    have hlargest := le_leadingExponent_iff_not_isBelowPower sextillion_le_leadingExponent h
    have hbelow := not_iff_comm.1 hsmallest.symm
    rw [Layout.mem_letter_write_iff h, ← hlargest, ← hbelow]
    show ¬(-6 ≤ (x.shortest .up).leadingExponent ∧ (x.shortest .up).leadingExponent ≤ 20) ↔ _
    omega

/-! ### Nothing is lost -/

/-- What a number needs of a text that stands for it: the text is a JSON number and accepted as one, it
denotes a number that is equal, and the number decides by its size whether there is an exponent and, if
it is whole, that there is no point.  The JSON reader need not lead back to the number, as it rounds in
several steps. -/
structure StandsAs (x : Finite64) (text : String) : Prop where
  spells : ∃ p : Json.NumberParts, p.Spells text.toList
  json : ∃ n, Json.parse text = .ok (.number n)
  number : ∃ y, Scalar.numberOfText? text = some y ∧ (Binary64.finite y).Equals (.finite x)
  exponent : (∃ c ∈ text.toList, c = 'e' ∨ c = 'E') ↔
    x.units ≠ 0 ∧ (x.IsBelowPower (-6) ∨ ¬x.IsBelowPower 21)
  point : x.IsWhole → x.IsBelowPower 21 → '.' ∉ text.toList

/-- The plain text of a number stands for it. -/
theorem standsAs_plain (x : Finite64) : x.StandsAs ((Binary64.finite x).toText .plain) := by
  have htext : ((Binary64.finite x).toText .plain).toList = Layout.plain.write x := by
    rw [Binary64.toText, String.toList_ofList]
  obtain ⟨p, hspells, hread, haccepted⟩ := Layout.plain.exists_spells_write x
  obtain ⟨n, hn⟩ := haccepted (by decide)
  rw [← htext] at hspells
  -- The sign that is not shown is that of a zero.
  have hequals : (Binary64.finite ⟨Layout.plain.showsSign x, x.units, x.representable⟩).Equals
      (.finite x) := by
    show signedUnits _ = x.signedUnits
    by_cases hzero : x.units = 0
    · simp [signedUnits, hzero]
    · simp [signedUnits, Layout.showsSign, hzero]
  refine ⟨⟨p, hspells⟩, ⟨n, hspells.parse_eq hn⟩, ⟨_, ?_, hequals⟩, ?_, ?_⟩
  · rw [Scalar.numberOfText?, hspells.trimChars, hspells.numberOfTrimmed?, hread, Binary64.finite?]
  · rw [htext, ← mem_letter_plain_iff]
    constructor
    · rintro ⟨c, hc, rfl | rfl⟩
      · exact hc
      · exact absurd hc (Layout.plain.capital_notMem_write x)
    · exact fun hc => ⟨'e', hc, .inl rfl⟩
  · intro hwhole hless
    rw [htext]
    refine Layout.point_notMem_write rfl (by decide) hwhole fun hzero => ?_
    have hiff := le_leadingExponent_iff_not_isBelowPower sextillion_le_leadingExponent hzero
    have hbelow : ¬21 ≤ (x.shortest .up).leadingExponent := fun hle => hiff.1 hle hless
    show (x.shortest .up).leadingExponent ≤ 20
    omega

/-- A number becomes its plain text under a field of texts and under one of categories. -/
theorem coerce_plain (x : Finite64) :
    (Scalar.number (.finite x)).coerce .text = .text ((Binary64.finite x).toText .plain) ∧
      (Scalar.number (.finite x)).coerce .option =
        .option ((Binary64.finite x).toText .plain) :=
  ⟨rfl, congrArg TypedValue.option (Layout.plain.normalize_write x)⟩

/-- Numbers lose nothing when they become texts: the plain text stands for the number, it is what the
number becomes under a field of texts or of categories, and numbers that are not equal become different
texts and different tokens. -/
theorem plain_text_faithful (x : Finite64) :
    x.StandsAs ((Binary64.finite x).toText .plain) ∧
      (Scalar.number (.finite x)).coerce .text = .text ((Binary64.finite x).toText .plain) ∧
      (Scalar.number (.finite x)).coerce .option =
        .option ((Binary64.finite x).toText .plain) ∧
      ∀ y, ¬(Binary64.finite x).Equals (.finite y) →
        (Scalar.number (.finite x)).coerce .text ≠ (Scalar.number (.finite y)).coerce .text ∧
        (Scalar.number (.finite x)).coerce .option ≠ (Scalar.number (.finite y)).coerce .option := by
  have hsame {y : Finite64}
      (htext : (Binary64.finite x).toText .plain = (Binary64.finite y).toText .plain) :
      (Binary64.finite x).Equals (.finite y) := by
    obtain ⟨a, ha, hax⟩ := x.standsAs_plain.number
    obtain ⟨b, hb, hby⟩ := y.standsAs_plain.number
    rw [htext, hb] at ha
    cases ha
    exact hax.symm.trans hby
  refine ⟨x.standsAs_plain, x.coerce_plain.1, x.coerce_plain.2, fun y hne => ⟨?_, ?_⟩⟩
  · rw [x.coerce_plain.1, y.coerce_plain.1]
    exact fun heq => hne (hsame (TypedValue.text.inj heq))
  · rw [x.coerce_plain.2, y.coerce_plain.2]
    exact fun heq => hne (hsame (TypedValue.option.inj heq))

/-- One is whole and below a sextillion, and it is told apart from the smallest positive number, of
which the text has an exponent. -/
theorem plain_text_faithful_one :
    let one : Finite64 := ⟨false, unitsOfOne, by decide +kernel⟩
    let least : Finite64 := ⟨false, 1, by decide +kernel⟩
    one.IsWhole ∧ one.IsBelowPower 21 ∧ ¬(Binary64.finite one).Equals (.finite least) ∧
      '.' ∉ ((Binary64.finite one).toText .plain).toList ∧
      (Scalar.number (.finite one)).coerce .option ≠ (Scalar.number (.finite least)).coerce .option ∧
      (Scalar.number (.finite least)).coerce .option = .option "5e-324" := by
  intro one least
  have hwhole : one.IsWhole := by decide +kernel
  have hless : one.IsBelowPower 21 := by
    unfold IsBelowPower
    decide +kernel
  have hne : ¬(Binary64.finite one).Equals (.finite least) := by decide +kernel
  obtain ⟨hstands, -, -, happart⟩ := one.plain_text_faithful
  obtain ⟨-, -, hoption, -⟩ := least.plain_text_faithful
  refine ⟨hwhole, hless, hne, hstands.point hwhole hless, (happart least hne).2, ?_⟩
  rw [hoption]
  decide +kernel

end Finite64
end LooseRecords
