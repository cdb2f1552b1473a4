import LooseRecords.Proofs.Query.Rejections
import LooseRecords.Proofs.Record

/-!
# Queries with one condition

The simplest queries compare one field with an operand.  Where the field exists and operator and
operand fit it, such a query is answered by the rows whose cell under the name of the field meets
the condition; no other field plays a part in it.
-/

namespace LooseRecords

/-- The answer to the clause whose only condition compares a field with an operand. -/
def queryField (records : List RawRecord) (s : Schema) (name : String) (op : Operator)
    (operand : Json) : Except RequestError (List TypedRecord) := do
  let c ← WhereClause.ofJson (.object [(name, .object [(op.name, operand)])])
  query records s c

/-- A condition that fits its field is answered by the rows with a cell that meets it. -/
theorem queryField_of_fits {s : Schema} (hnodup : s.names.Nodup) {f : Field} (hf : f ∈ s.fields)
    {op : Operator} {operand : Json}
    (hnumber : op.NeedsNumber → f.type.IsNumeric ∧ operand.kind = .number)
    (hscalar : op = .eq → operand.kind ≠ .array ∧ operand.kind ≠ .object)
    (records : List RawRecord) :
    queryField records s f.name op operand =
      .ok ((coerceAll records s).filter fun row =>
        ∃ value ∈ row.get? f.name, (Request.mk op operand).Meets value) := by
  have hread : WhereClause.ofJson (.object [(f.name, .object [(op.name, operand)])]) =
      .ok ⟨[(f.name, ⟨op, operand⟩)]⟩ :=
    WhereClause.ofJson_singleton f.name ⟨op, operand⟩
  have hresolve : ∃ conditions,
      (WhereClause.mk [(f.name, ⟨op, operand⟩)]).resolve s = .ok conditions := by
    rw [WhereClause.exists_resolve_iff_fits hnodup]
    refine ⟨List.cons_ne_nil _ _, ?_⟩
    intro entry hentry
    rw [List.mem_singleton.1 hentry]
    exact ⟨⟨f, hf, rfl, fun hneeds => (hnumber hneeds).1⟩, fun hneeds => (hnumber hneeds).2,
      hscalar⟩
  obtain ⟨conditions, hresolve⟩ := hresolve
  unfold queryField
  rw [hread]
  show query records s _ = _
  rw [query_of_resolve hresolve]
  simp only [WhereClause.Meets, List.forall_mem_singleton]

/-- Under distinct names every row has, under the name of a field, what the field makes of the
record behind the row. -/
theorem exists_get?_of_mem_coerceAll {records : List RawRecord} {s : Schema}
    (hnodup : s.names.Nodup) {f : Field} (hf : f ∈ s.fields) {row : TypedRecord}
    (hrow : row ∈ coerceAll records s) :
    ∃ r ∈ records, row = r.coerce s ∧ row.get? f.name = some (r.coerceField f) := by
  obtain ⟨r, hr, rfl⟩ := List.mem_map.1 hrow
  refine ⟨r, hr, rfl, ?_⟩
  rw [r.get?_coerce, Schema.field?_of_mem hnodup hf, Option.map_some]

end LooseRecords
