import LooseRecords.Proofs.Coercion.Dates
import LooseRecords.Proofs.Query.CellQueries
import LooseRecords.Proofs.Schema.Categories

/-!
# Equal after coercion

A condition to be equal to an operand does not coerce its operand: it compares it with the cell by
rules of its own, which look at the kinds of both.  On fields of dates and of categories these rules
come to the same as coercing the operand as well.  A cell that is not null is equal to an operand
exactly if the operand is coerced to this cell (`FieldType.Yields.equalsOperand_iff_coerce`).  So
such a condition selects the rows whose cell is what its operand is coerced to
(`queryField_eq_filter_coerce`).
-/

namespace LooseRecords

/-- The types of fields that compare what their values denote, and not the values themselves. -/
def FieldType.ComparesMeaning (type : FieldType) : Prop :=
  type = .date ∨ type = .option

namespace Scalar

/-- No text of blanks is a date. -/
theorem toInstant?_eq_none_of_isBlank {raw : Scalar} (h : raw.isBlank = true) :
    raw.toInstant? = none := by
  cases raw with
  | text s =>
    have hnil : Text.trimChars s.toList = [] := Text.isBlankText_iff_trimChars.1 h
    have hnone : Instant.ofTrimmed? [] = none := by decide +kernel
    rw [toInstant?, Instant.ofText?, hnil, hnone]
  | null => rfl
  | bool b => rfl
  | number x => cases h

/-- Under a field of dates a value becomes the instant it denotes. -/
theorem coerce_date_eq_iff {raw : Scalar} {t : Instant} :
    raw.coerce .date = .date t ↔ raw.toInstant? = some t := by
  cases hblank : raw.isBlank with
  | true => simp [coerce, hblank, toInstant?_eq_none_of_isBlank hblank]
  | false =>
    have hread : raw.read? .date = raw.toInstant?.map .date := rfl
    rw [coerce, hblank, if_neg Bool.false_ne_true, hread]
    cases raw.toInstant? <;> simp

end Scalar

/-- A date is equal to the operands that denote it. -/
theorem Condition.equalsOperand_date_iff {t : Instant} {operand : Scalar} :
    EqualsOperand (.date t) operand ↔ operand.toInstant? = some t := by
  cases operand with
  | null | bool => simp [EqualsOperand, Scalar.toInstant?]
  | number | text => rfl

/-- A cell of a date or of a category is equal to the operands that are coerced to it. -/
theorem FieldType.Yields.equalsOperand_iff_coerce {type : FieldType} {value : TypedValue}
    (h : type.Yields value) (htype : type.ComparesMeaning) (hne : value ≠ .null)
    (operand : Scalar) :
    Condition.EqualsOperand value operand ↔ operand.coerce type = value := by
  cases h with
  | null => exact absurd rfl hne
  | text | integer | float | boolean => rcases htype with htype | htype <;> cases htype
  | date t => rw [Condition.equalsOperand_date_iff, Scalar.coerce_date_eq_iff]
  | @option s hblank hsettled =>
    have hne : s ≠ "" := by
      rintro rfl
      cases hblank
    rw [Scalar.coerce_option_eq_iff]
    exact (and_iff_left hne).symm

/-! ### Queries -/

/-- A condition to be equal to a scalar is answered by the rows whose cell is equal to it, be there
other fields of the same name after the field or not. -/
theorem queryField_eq_of_field? {s : Schema} {f : Field} (hf : s.field? f.name = some f)
    {operand : Json} (hscalar : operand.kind ≠ .array ∧ operand.kind ≠ .object)
    (records : List RawRecord) :
    queryField records s f.name .eq operand =
      .ok ((coerceAll records s).filter fun row =>
        ∃ value ∈ row.get? f.name, Condition.EqualsOperand value (.ofJson operand)) := by
  have hread : WhereClause.ofJson (.object [(f.name, .object [(Operator.eq.name, operand)])]) =
      .ok ⟨[(f.name, ⟨.eq, operand⟩)]⟩ :=
    WhereClause.ofJson_singleton f.name ⟨.eq, operand⟩
  have hoperand : WhereClause.scalarOperand (f.name, ⟨.eq, operand⟩) = .ok (.ofJson operand) := by
    cases operand with
    | array items => exact absurd rfl hscalar.1
    | object entries => exact absurd rfl hscalar.2
    | _ => rfl
  have hneeds : ¬Operator.eq.NeedsNumber := by simp [Operator.NeedsNumber]
  have hresolve : ∃ conditions,
      (WhereClause.mk [(f.name, ⟨.eq, operand⟩)]).resolve s = .ok conditions := by
    rw [WhereClause.exists_resolve_eq_ok_iff]
    refine ⟨List.cons_ne_nil _ _, List.forall_mem_singleton.2 ⟨?_, if_neg hneeds, ?_⟩⟩
    · exact WhereClause.checkField_eq_ok_iff_field?.2 ⟨f, hf, fun h => absurd h hneeds⟩
    · refine ⟨⟨f.name, .equals (.ofJson operand)⟩, ?_⟩
      simp only [WhereClause.resolveRequest, hoperand]
      rfl
  obtain ⟨conditions, hresolve⟩ := hresolve
  unfold queryField
  rw [hread]
  show query records s _ = _
  rw [query_of_resolve hresolve]
  simp only [WhereClause.Meets, List.forall_mem_singleton]
  rfl

/-- On a field of dates or of a category, a condition to be equal to an operand that is not coerced
to null is answered by the rows whose cell is what the operand is coerced to. -/
theorem queryField_eq_filter_coerce {s : Schema} {f : Field} (hf : s.field? f.name = some f)
    (htype : f.type.ComparesMeaning) {operand : Json}
    (hscalar : operand.kind ≠ .array ∧ operand.kind ≠ .object)
    (hne : (Scalar.ofJson operand).coerce f.type ≠ .null) (records : List RawRecord) :
    queryField records s f.name .eq operand =
      .ok ((coerceAll records s).filter fun row =>
        row.get? f.name = some ((Scalar.ofJson operand).coerce f.type)) := by
  rw [queryField_eq_of_field? hf hscalar]
  congr 1
  refine List.filter_congr fun row hrow => ?_
  obtain ⟨r, -, rfl⟩ := List.mem_map.1 hrow
  rw [decide_eq_decide, r.get?_coerce, hf, Option.map_some]
  simp only [Option.mem_some_iff, exists_eq_left', Option.some.injEq]
  by_cases hcell : r.coerceField f = .null
  · -- Null is equal to null only, and this is coerced to null.
    rw [hcell]
    constructor
    · intro hequal
      cases hoperand : Scalar.ofJson operand with
      | null => rw [hoperand] at hne; exact absurd rfl hne
      | _ => rw [hoperand] at hequal; exact hequal.elim
    · exact fun hnull => absurd hnull.symm hne
  · rw [(r.yields_coerceField f).equalsOperand_iff_coerce htype hcell, eq_comm]

/-- On fields of dates and of categories, to be equal is to be equal after coercion.  A value that
is not coerced to null becomes a cell that is equal to an operand exactly if the operand is coerced
to the same.  So a query with a value that a record has in the data is answered by the rows whose
cell is what this value is coerced to, and the row of the record is one of them. -/
theorem equals_iff_coerced_equal (f : Field) (htype : f.type = .date ∨ f.type = .option) :
    (∀ a b : Scalar, a.coerce f.type ≠ .null →
      ((Condition.equals b).Matches (a.coerce f.type) ↔ b.coerce f.type = a.coerce f.type)) ∧
    ∀ (records : List RawRecord) (s : Schema), s.field? f.name = some f →
      ∀ r ∈ records, ∀ operand : Json, operand.kind ≠ .array ∧ operand.kind ≠ .object →
        r.get? f.display = some (.ofJson operand) →
        (Scalar.ofJson operand).coerce f.type ≠ .null →
        ∃ rows, queryField records s f.name .eq operand = .ok rows ∧ r.coerce s ∈ rows ∧
          rows = (coerceAll records s).filter fun row =>
            row.get? f.name = some ((Scalar.ofJson operand).coerce f.type) := by
  refine ⟨fun a b hne => (a.yields_coerce f.type).equalsOperand_iff_coerce htype hne b, ?_⟩
  intro records s hf r hr operand hscalar hget hne
  refine ⟨_, queryField_eq_filter_coerce hf htype hscalar hne records, ?_, rfl⟩
  rw [List.mem_filter]
  refine ⟨List.mem_map_of_mem hr, ?_⟩
  rw [decide_eq_true_eq, r.get?_coerce, hf, Option.map_some, RawRecord.coerceField, hget]

/-- A day in the data is equal to the milliseconds of its start, a fraction of one left aside, and
its record is found by what stands in the data. -/
theorem equals_iff_coerced_equal_day :
    let f : Field := ⟨"Seen", "seen", .date, []⟩
    let s : Schema := ⟨[f]⟩
    let r : RawRecord := .ofJson (.object [("Seen", .string " 1969-12-31\n")])
    let day : Scalar := .text " 1969-12-31\n"
    let epoch : Scalar := .number (Decimal.mk true 864000005 (-1)).toBinary64
    (f.type = .date ∨ f.type = .option) ∧ day.coerce f.type ≠ .null ∧
      (Condition.equals epoch).Matches (day.coerce f.type) ∧
      s.field? f.name = some f ∧ r.get? f.display = some (.ofJson (.string " 1969-12-31\n")) ∧
      ∃ rows, queryField [r] s "seen" .eq (.string " 1969-12-31\n") = .ok rows ∧
        r.coerce s ∈ rows := by
  intro f s r day epoch
  have htype : f.type = .date ∨ f.type = .option := .inl rfl
  have hday : day.coerce f.type ≠ .null := by decide +kernel
  have hepoch : epoch.coerce f.type = day.coerce f.type := by decide +kernel
  have hfield : s.field? f.name = some f := by decide
  have hget : r.get? f.display = some (.ofJson (.string " 1969-12-31\n")) := by decide
  obtain ⟨hmatches, hqueries⟩ := equals_iff_coerced_equal f htype
  obtain ⟨rows, hrows, hmem, -⟩ := hqueries [r] s hfield r (List.mem_singleton_self r)
    (.string " 1969-12-31\n") (by decide) hget hday
  exact ⟨htype, hday, (hmatches day epoch hday).2 hepoch, hfield, hget, rows, hrows, hmem⟩

end LooseRecords
