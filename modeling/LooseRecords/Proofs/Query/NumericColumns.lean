import LooseRecords.Proofs.Number.Order
import LooseRecords.Proofs.Query.CellTypes
import LooseRecords.Proofs.Query.FieldQueries
import LooseRecords.Proofs.Query.WholeNumbers
import Mathlib.Logic.ExistsUnique

/-!
# Comparing a column of numbers with a number

Equality and order go different ways: equality looks at the kinds of the value and of the operand,
order asks the value for its number.  Under a field of numbers both come to the same, a comparison
of exact values in units, because what coercion yields there is null or has a finite number.  Two
whole numbers compare in exactly one way, so with any number as operand the three operators divide
the rows that have a number, and leave the rows with null to the condition to be equal to null.
-/

namespace LooseRecords

/-- The exact value in units of the number of a value, if it has a finite one. -/
def TypedValue.units? (value : TypedValue) : Option Int :=
  value.toNumber?.bind Binary64.units?

theorem TypedValue.units?_of_toNumber? {value : TypedValue} {x : Finite64}
    (h : value.toNumber? = some (.finite x)) : value.units? = some x.signedUnits := by
  rw [units?, h]
  rfl

/-- The exact value in units of the number in the cell under a name, if there is one. -/
def TypedRecord.units? (row : TypedRecord) (name : String) : Option Int :=
  (row.get? name).bind TypedValue.units?

/-- Two whole numbers compare in one way only. -/
theorem Operator.Compares.unique {op op' : Operator} {a b : Int} (h : op.Compares a b)
    (h' : op'.Compares a b) : op' = op := by
  unfold Operator.Compares at h h'
  cases op <;> cases op' <;> grind

/-- Two whole numbers compare in exactly one way. -/
theorem Operator.existsUnique_compares (a b : Int) : ∃! op : Operator, op.Compares a b := by
  have hsome : ∃ op : Operator, op.Compares a b := by
    rcases Int.lt_trichotomy a b with hlt | heq | hgt
    · exact ⟨.lt, hlt⟩
    · exact ⟨.eq, heq⟩
    · exact ⟨.gt, hgt⟩
  obtain ⟨op, h⟩ := hsome
  exact ⟨op, h, fun op' h' => h.unique h'⟩

/-! ### Values under a field of numbers -/

/-- What coercion yields under a type of numbers is null, or it has a finite number, by which both
equality and order go. -/
theorem FieldType.Yields.eq_null_or_exists_finite {type : FieldType} {value : TypedValue}
    (h : type.Yields value) (hnumeric : type.IsNumeric) :
    value = .null ∨ ∃ x : Finite64, value.toNumber? = some (.finite x) ∧
      ∀ y, Condition.EqualsOperand value (.number y) ↔ (Binary64.finite x).Equals y := by
  rcases h.cases_of_isNumeric hnumeric with hnull | ⟨n, rfl⟩ | ⟨x, rfl⟩
  · exact .inl hnull
  · have hbound : n.val.natAbs ≤ 2 ^ 64 := Nat.le_trans n.natAbs_val_le (by decide)
    obtain ⟨x, hx, -, -⟩ := ofInt_spec hbound
    refine .inr ⟨x, congrArg some hx, ?_⟩
    intro y
    rw [← hx]
    rfl
  · obtain ⟨x, rfl⟩ := h.exists_eq_finite
    exact .inr ⟨x, rfl, fun _ => Iff.rfl⟩

/-- A value under a field of numbers meets a condition with a number as operand where it has a
number and the exact values compare. -/
theorem Request.meets_number_iff {type : FieldType} {value : TypedValue} (h : type.Yields value)
    (hnumeric : type.IsNumeric) (op : Operator) (c : Json.Number) :
    (Request.mk op (.number c)).Meets value ↔
      ∃ a ∈ value.units?, ∃ b ∈ c.toBinary64.units?, op.Compares a b := by
  obtain ⟨y, hy, -⟩ := c.exists_toBinary64_eq
  have hoperand : (Request.mk op (.number c)).number? = some (.finite y) := congrArg some hy
  rcases h.eq_null_or_exists_finite hnumeric with rfl | ⟨x, hx, hequals⟩
  · cases op <;> simp [Meets, Condition.EqualsOperand, Scalar.ofJson, TypedValue.units?,
      TypedValue.toNumber?]
  · have hunits : value.units? = some x.signedUnits := TypedValue.units?_of_toNumber? hx
    have hunits' : c.toBinary64.units? = some y.signedUnits := congrArg Binary64.units? hy
    rw [hunits, hunits']
    simp only [Option.mem_some_iff, exists_eq_left']
    cases op with
    | eq =>
      show Condition.EqualsOperand value (.number c.toBinary64) ↔ _
      rw [hy, hequals]
      rfl
    | gt =>
      simp only [Meets, hoperand, hx, Option.mem_some_iff, exists_eq_left']
      rfl
    | lt =>
      simp only [Meets, hoperand, hx, Option.mem_some_iff, exists_eq_left']
      rfl

/-- Only null is equal to null. -/
theorem Request.meets_null_iff {value : TypedValue} :
    (Request.mk .eq .null).Meets value ↔ value = .null := by
  cases value <;> simp [Meets, Condition.EqualsOperand, Scalar.ofJson, Scalar.toText?]

/-! ### The three comparisons -/

/-- Comparing the column of a field of numbers with a number.  Each of the three conditions is
answered by the rows whose number compares by its exact value with the operand, the two zeros being
equal.  A row with a number is in exactly one of the three answers and not among the rows equal to
null; a row with null is in none of them and is among the rows equal to null.  With a larger operand
fewer rows are above it and more below, and a number whose exact value is larger is never a smaller
operand. -/
theorem numeric_column_trichotomy (records : List RawRecord) (s : Schema)
    (hvalid : s.validate = .ok ()) (f : Field) (hf : f ∈ s.fields) (hnumeric : f.type.IsNumeric) :
    let all := coerceAll records s
    let answer (op : Operator) (c : Json.Number) := all.filter fun row =>
      ∃ a ∈ row.units? f.name, ∃ b ∈ c.toBinary64.units?, op.Compares a b
    let nulls := all.filter fun row => row.get? f.name = some .null
    (∀ op c, queryField records s f.name op (.number c) = .ok (answer op c)) ∧
    queryField records s f.name .eq .null = .ok nulls ∧
    (∀ c, ∀ row ∈ all, ∃ value, row.get? f.name = some value ∧
      (value ≠ .null → (∃! op, row ∈ answer op c) ∧ row ∉ nulls) ∧
      (value = .null → (∀ op, row ∉ answer op c) ∧ row ∈ nulls)) ∧
    (∀ c c', ¬c'.toBinary64 < c.toBinary64 →
      (answer .gt c').Sublist (answer .gt c) ∧ (answer .lt c).Sublist (answer .lt c')) ∧
    ∀ c c' : Json.Number, c.exactUnits ≤ c'.exactUnits → ¬c'.toBinary64 < c.toBinary64 := by
  intro all answer nulls
  have hnodup : s.names.Nodup := (Schema.validate_eq_ok_iff.1 hvalid).nodup_names
  have hcell : ∀ row ∈ all, ∃ value, row.get? f.name = some value ∧ f.type.Yields value := by
    intro row hrow
    obtain ⟨r, -, -, hget⟩ := exists_get?_of_mem_coerceAll hnodup hf hrow
    exact ⟨r.coerceField f, hget, r.yields_coerceField f⟩
  refine ⟨?_, ?_, ?_, ?_, fun c c' => Json.Number.not_toBinary64_lt⟩
  · intro op c
    have hscalar : op = .eq → (Json.number c).kind ≠ .array ∧ (Json.number c).kind ≠ .object :=
      fun _ => by simp [Json.kind]
    rw [queryField_of_fits hnodup hf (fun _ => ⟨hnumeric, rfl⟩) hscalar]
    refine congrArg Except.ok (List.filter_congr ?_)
    intro row hrow
    obtain ⟨value, hget, hyields⟩ := hcell row hrow
    have hmeets := Request.meets_number_iff hyields hnumeric op c
    simpa [TypedRecord.units?, hget] using hmeets
  · have hnumber : Operator.eq.NeedsNumber → f.type.IsNumeric ∧ Json.null.kind = .number := by
      simp [Operator.NeedsNumber]
    rw [queryField_of_fits hnodup hf hnumber fun _ => by simp [Json.kind]]
    simp [Request.meets_null_iff, nulls, all]
  · intro c row hrow
    obtain ⟨value, hget, hyields⟩ := hcell row hrow
    have hnulls : row ∈ nulls ↔ value = .null := by simp [nulls, hrow, hget]
    have hanswer (op : Operator) : row ∈ answer op c ↔
        ∃ a ∈ value.units?, ∃ b ∈ c.toBinary64.units?, op.Compares a b := by
      simp [answer, hrow, TypedRecord.units?, hget]
    refine ⟨value, hget, ?_, ?_⟩
    · intro hnull
      rcases hyields.eq_null_or_exists_finite hnumeric with hnull' | ⟨x, hx, -⟩
      · exact absurd hnull' hnull
      · have hunits : value.units? = some x.signedUnits := TypedValue.units?_of_toNumber? hx
        simp only [hanswer, hunits, c.units?_toBinary64, Option.mem_some_iff, exists_eq_left',
          hnulls]
        exact ⟨Operator.existsUnique_compares _ _, hnull⟩
    · rintro rfl
      simp only [hanswer, hnulls]
      exact ⟨fun op => by simp [TypedValue.units?, TypedValue.toNumber?], trivial⟩
  · intro c c' hle
    obtain ⟨x, hx, -⟩ := c.exists_toBinary64_eq
    obtain ⟨y, hy, -⟩ := c'.exists_toBinary64_eq
    have hxy : x.signedUnits ≤ y.signedUnits := by
      rw [hx, hy] at hle
      exact Int.not_lt.1 hle
    have hc : c.toBinary64.units? = some x.signedUnits := congrArg Binary64.units? hx
    have hc' : c'.toBinary64.units? = some y.signedUnits := congrArg Binary64.units? hy
    constructor
    · refine List.monotone_filter_right all ?_
      intro row h
      simp only [hc, hc', Option.mem_some_iff, exists_eq_left', decide_eq_true_eq] at h ⊢
      obtain ⟨a, ha, hgt⟩ := h
      exact ⟨a, ha, Int.lt_of_le_of_lt hxy hgt⟩
    · refine List.monotone_filter_right all ?_
      intro row h
      simp only [hc, hc', Option.mem_some_iff, exists_eq_left', decide_eq_true_eq] at h ⊢
      obtain ⟨a, ha, hlt⟩ := h
      exact ⟨a, ha, Int.lt_of_lt_of_le hlt hxy⟩

/-- Of four rows one holds a negative zero, which is equal to zero, and one holds null, as its text
is no number.  The rows above one are among the rows above zero. -/
theorem numeric_column_trichotomy_zero :
    let f : Field := ⟨"Score", "score", .float, []⟩
    let s : Schema := ⟨[⟨"Name", "name", .text, []⟩, f]⟩
    let records : List RawRecord := ["-0.0", "1.5", "none", " 0x01 "].map fun text =>
      .ofJson (.object [("Score", .string text)])
    let zero : Json.Number := .integer ⟨0, by decide, by decide⟩
    let one : Json.Number := .integer ⟨1, by decide, by decide⟩
    s.validate = .ok () ∧ f ∈ s.fields ∧ f.type.IsNumeric ∧ ¬one.toBinary64 < zero.toBinary64 ∧
      queryField records s "score" .eq (.number zero) = .ok ((coerceAll records s).take 1) ∧
      queryField records s "score" .eq .null = .ok (((coerceAll records s).drop 2).take 1) ∧
      ∃ aboveOne aboveZero, queryField records s "score" .gt (.number one) = .ok aboveOne ∧
        queryField records s "score" .gt (.number zero) = .ok aboveZero ∧
        aboveOne.Sublist aboveZero := by
  intro f s records zero one
  have hvalid : s.validate = .ok () :=
    Schema.validate_eq_ok_iff.2 ⟨by decide +kernel, by decide, by decide, by decide⟩
  have hf : f ∈ s.fields := by decide
  have hnumeric : f.type.IsNumeric := by decide
  have hle : ¬one.toBinary64 < zero.toBinary64 := by decide +kernel
  obtain ⟨hanswer, hnulls, -, hmono, -⟩ :=
    numeric_column_trichotomy records s hvalid f hf hnumeric
  refine ⟨hvalid, hf, hnumeric, hle, ?_, ?_, _, _, hanswer .gt one, hanswer .gt zero,
    (hmono zero one hle).1⟩
  · rw [hanswer]
    decide +kernel
  · rw [hnulls]
    decide +kernel

end LooseRecords
