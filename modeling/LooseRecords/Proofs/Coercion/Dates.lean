import LooseRecords.Proofs.Calendar.Instant
import LooseRecords.TypedValue

/-!
# Coercing dates a second time

A date is written into the output as the text of its instant.  Coercing this text under a field of
dates gives the same date in the years 0 to 9999 of universal time and null in all others, whatever
value the date came from: a number, a year with a sign, or a timestamp whose offset leads over the
turn of one of these years.
-/

namespace LooseRecords

theorem Instant.isBlank_text (t : Instant) : (Scalar.text t.text).isBlank = false := by
  show t.text.toList.all Text.isBlank = false
  rw [Instant.text, String.toList_ofList]
  exact List.all_eq_false.2 ⟨'Z', t.mem_chars, by decide⟩

/-- The text of an instant under a field of dates. -/
theorem Instant.coerce_text (t : Instant) :
    (Scalar.text t.text).coerce .date =
      if 0 ≤ t.year ∧ t.year ≤ 9999 then .date t else .null := by
  have hread : (Scalar.text t.text).read? .date = (Instant.ofText? t.text).map .date := rfl
  rw [Scalar.coerce, t.isBlank_text, if_neg Bool.false_ne_true, hread, t.ofText?_text]
  by_cases hyear : 0 ≤ t.year ∧ t.year ≤ 9999
  · rw [if_pos hyear, if_pos hyear]
    rfl
  · rw [if_neg hyear, if_neg hyear]
    rfl

/-- A date that came out of coercion is written as the text of its instant.  The text denotes the
same instant, and is coerced to the same date, exactly in the years 0 to 9999; in other years it
denotes no instant and is coerced to null. -/
theorem coerce_date_again_iff (raw : Scalar) (t : Instant) (h : raw.coerce .date = .date t) :
    let again := (Scalar.ofJson (raw.coerce .date).toJson).coerce .date
    (raw.coerce .date).toJson = .string t.text ∧
      (Instant.ofText? t.text = some t ↔ 0 ≤ t.year ∧ t.year ≤ 9999) ∧
      (again = raw.coerce .date ↔ 0 ≤ t.year ∧ t.year ≤ 9999) ∧
      (¬(0 ≤ t.year ∧ t.year ≤ 9999) → Instant.ofText? t.text = none ∧ again = .null) := by
  rw [h]
  show Json.string t.text = _ ∧ (_ ↔ _) ∧ ((Scalar.text t.text).coerce .date = _ ↔ _) ∧
    (_ → _ ∧ (Scalar.text t.text).coerce .date = _)
  rw [t.coerce_text, t.ofText?_text]
  by_cases hyear : 0 ≤ t.year ∧ t.year ≤ 9999
  · simp [hyear]
  · simp [hyear]

/-- A leap second in a text with an offset survives. -/
theorem coerce_date_again_leap_second :
    let raw : Scalar := .text "2016-12-31T18:59:60.1239-05:00"
    let t : Instant :=
      ⟨1483228799, 123, true, by decide, by decide, by decide⟩
    raw.coerce .date = .date t ∧
      (Scalar.ofJson (raw.coerce .date).toJson).coerce .date = raw.coerce .date := by
  intro raw t
  have h : raw.coerce .date = .date t := by decide +kernel
  obtain ⟨-, -, hagain, -⟩ := coerce_date_again_iff raw t h
  exact ⟨h, hagain.2 (t.year_mem_iff_second.2 (by decide))⟩

/-- The last second of the year 9999, an hour behind universal time, does not survive. -/
theorem coerce_date_again_lost :
    let raw : Scalar := .text "9999-12-31T23:59:59-01:00"
    let t : Instant :=
      ⟨253402304399, 0, false, by decide, by decide, by decide⟩
    raw.coerce .date = .date t ∧ t.text = "+10000-01-01T00:59:59.000Z" ∧
      Instant.ofText? t.text ≠ some t ∧
      (Scalar.ofJson (raw.coerce .date).toJson).coerce .date ≠ raw.coerce .date := by
  decide +kernel

end LooseRecords
