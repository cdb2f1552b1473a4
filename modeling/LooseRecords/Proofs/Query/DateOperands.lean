import LooseRecords.Proofs.Query.CoercedEquality

/-!
# Two operands for one date

A date can be asked for by its milliseconds since the start of 1970 or by its text.  In the years 0
to 9999 the text is read as the date.  The milliseconds are held exactly by a floating-point number
there (`Instant.exists_ofInt_epochMillis`), and taking them apart leads back to the date
(`Instant.ofEpochMillis?_epochMillis`), before 1970 as after it.  Leap seconds are left aside: their
milliseconds are those of the second that follows.
-/

namespace LooseRecords
namespace Instant

variable {t : Instant}

/-- The milliseconds of an instant outside leap seconds lead back to it. -/
theorem ofEpochMillis?_epochMillis (hleap : t.leap = false) :
    ofEpochMillis? t.epochMillis = some t := by
  obtain ⟨second, milli, leap, hmilli, hminute, hrange⟩ := t
  subst hleap
  have hmillis : epochMillis ⟨second, milli, false, hmilli, hminute, hrange⟩ =
      second * 1000 + milli := by
    simp [epochMillis]
  -- The milliseconds of a second are fewer than 1000, so rounding down finds the second.
  have hsecond : (second * 1000 + milli) / 1000 = second := by omega
  have hrest : ((second * 1000 + milli) % 1000).toNat = milli := by omega
  rw [hmillis, ofEpochMillis?, dif_pos (by rw [hsecond]; exact hrange)]
  simp only [hsecond, hrest]

/-- The milliseconds of the years 0 to 9999 are fewer than `2 ^ 53`. -/
theorem natAbs_epochMillis_le (hyear : 0 ≤ t.year ∧ t.year ≤ 9999) :
    t.epochMillis.natAbs ≤ 2 ^ 53 := by
  obtain ⟨hfirst, hlast⟩ := t.year_mem_iff_second.1 hyear
  have hmilli := t.milli_lt
  unfold epochMillis
  split <;> omega

/-- A floating-point number holds the milliseconds of the years 0 to 9999 exactly. -/
theorem exists_ofInt_epochMillis (hyear : 0 ≤ t.year ∧ t.year ≤ 9999) :
    ∃ x : Finite64, Binary64.ofInt t.epochMillis = .finite x ∧
      x.signedUnits = t.epochMillis * Finite64.unitsOfOne ∧ x.truncate = t.epochMillis := by
  have hbound := natAbs_epochMillis_le hyear
  have hexact : nearestInt t.epochMillis = t.epochMillis :=
    nearestInt_eq_self_iff.2 (fitsSignificand_of_natAbs_le hbound)
  obtain ⟨x, hx, htruncate, hunits⟩ := ofInt_spec (Nat.le_trans hbound (by decide))
  rw [hexact] at htruncate hunits
  exact ⟨x, hx, hunits, htruncate⟩

/-- The milliseconds of an instant, as a floating-point number, denote it. -/
theorem ofEpochNumber?_epochMillis (hleap : t.leap = false)
    (hyear : 0 ≤ t.year ∧ t.year ≤ 9999) :
    ofEpochNumber? (.ofInt t.epochMillis) = some t := by
  obtain ⟨x, hx, -, htruncate⟩ := exists_ofInt_epochMillis hyear
  have hbound := natAbs_epochMillis_le hyear
  have hword : -9223372036854775808 ≤ t.epochMillis ∧ t.epochMillis < 9223372036854775808 := by
    omega
  have htoWord : (Binary64.finite x).toWord? = some ⟨t.epochMillis, hword.1, hword.2⟩ := by
    show Word.ofInt? x.truncate = _
    rw [htruncate]
    exact dif_pos hword
  rw [ofEpochNumber?, hx, htoWord]
  exact ofEpochMillis?_epochMillis hleap

end Instant

/-- Milliseconds and text agree as operands for a date.  Any date that coercion makes of a text or a
number, if it is not in a leap second and in the years 0 to 9999, is a whole number of milliseconds
since the start of 1970, which a floating-point number holds exactly and which denote the date.  To
be equal to this number and to be equal to the text of the date are the same condition on dates: to
be this date. -/
theorem date_operands_agree (raw : Scalar) (d : Instant) (h : raw.coerce .date = .date d)
    (hleap : d.leap = false) (hyear : 0 ≤ d.year ∧ d.year ≤ 9999) :
    ∃ m : Int, m = d.second * 1000 + d.milli ∧
      (∃ x : Finite64, Binary64.ofInt m = .finite x ∧
        x.signedUnits = m * Finite64.unitsOfOne) ∧
      Instant.ofEpochNumber? (.ofInt m) = some d ∧
      (Scalar.number (.ofInt m)).coerce .date = raw.coerce .date ∧
      (Scalar.text d.text).coerce .date = raw.coerce .date ∧
      ∀ other : Scalar,
        ((Condition.equals (.number (.ofInt m))).Matches (other.coerce .date) ↔
          (Condition.equals (.text d.text)).Matches (other.coerce .date)) ∧
        ((Condition.equals (.text d.text)).Matches (other.coerce .date) ↔
          other.coerce .date = .date d) := by
  have hnumber : Instant.ofEpochNumber? (.ofInt d.epochMillis) = some d :=
    Instant.ofEpochNumber?_epochMillis hleap hyear
  have hmillis : d.epochMillis = d.second * 1000 + d.milli := by
    simp [Instant.epochMillis, hleap]
  obtain ⟨x, hx, hunits, -⟩ := Instant.exists_ofInt_epochMillis hyear
  have hepoch : (Scalar.number (.ofInt d.epochMillis)).coerce .date = .date d :=
    Scalar.coerce_date_eq_iff.2 hnumber
  have htext : (Scalar.text d.text).coerce .date = .date d := by
    rw [d.coerce_text, if_pos hyear]
  -- An operand that is coerced to the date is met by the date and by nothing else.
  have hmatches {operand : Scalar} (hoperand : operand.coerce .date = .date d) (other : Scalar) :
      (Condition.equals operand).Matches (other.coerce .date) ↔ other.coerce .date = .date d := by
    by_cases hnull : other.coerce .date = .null
    · rw [hnull]
      cases operand with
      | null => cases hoperand
      | _ => simp [Condition.Matches, Condition.EqualsOperand]
    · rw [← hoperand, eq_comm]
      exact (other.yields_coerce .date).equalsOperand_iff_coerce (.inl rfl) hnull operand
  refine ⟨d.epochMillis, hmillis, ⟨x, hx, hunits⟩, hnumber, hepoch.trans h.symm,
    htext.trans h.symm, fun other => ⟨?_, hmatches htext other⟩⟩
  rw [hmatches hepoch, hmatches htext]

/-- A tenth of a second before the start of 1970, with an offset and digits beyond the milliseconds;
the milliseconds are below zero. -/
theorem date_operands_agree_before_epoch :
    let raw : Scalar := .text "1970-01-01T00:59:59.900999+01:00"
    let d : Instant := ⟨-1, 900, false, by decide, by decide, by decide⟩
    raw.coerce .date = .date d ∧ d.leap = false ∧ (0 ≤ d.year ∧ d.year ≤ 9999) ∧
      Instant.ofEpochNumber? (.ofInt (-100)) = some d ∧
      (Condition.equals (.number (.ofInt (-100)))).Matches (raw.coerce .date) := by
  intro raw d
  have h : raw.coerce .date = .date d := by decide +kernel
  have hyear : 0 ≤ d.year ∧ d.year ≤ 9999 := d.year_mem_iff_second.2 (by decide)
  obtain ⟨m, hm, -, hnumber, -, -, hagree⟩ := date_operands_agree raw d h rfl hyear
  obtain rfl : m = -100 := hm
  exact ⟨h, rfl, hyear, hnumber, (hagree raw).1.2 ((hagree raw).2.2 h)⟩

end LooseRecords
