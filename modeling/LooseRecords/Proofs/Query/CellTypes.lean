import LooseRecords.Proofs.Query.Meaning
import LooseRecords.Proofs.Record

/-!
# Types of the values that conditions meet

A clause is resolved against the fields of a schema, and its conditions are then put to the cells of
rows.  Both look a name up, the one among fields, the other among cells, and both take the first
that they find.  A row has one cell for each field in the order of the fields, so even where names
repeat both end at the same place, and the cell holds what coercion yields under the type of the
very field that was checked.  No schema has to be valid for this.

What coercion yields under a type is null or of this type, and of floating-point numbers it yields
the finite ones only, so that null is the only value that is written as null.
-/

namespace LooseRecords

/-- The type that a value is of; null is of none. -/
def TypedValue.type? : TypedValue → Option FieldType
  | .null => none
  | .text _ => some .text
  | .integer _ => some .integer
  | .float _ => some .float
  | .date _ => some .date
  | .boolean _ => some .boolean
  | .option _ => some .option

namespace FieldType.Yields

variable {type : FieldType} {value : TypedValue}

/-- What coercion yields under a type is null or of this type. -/
theorem eq_null_or_type?_eq (h : type.Yields value) : value = .null ∨ value.type? = some type := by
  cases h with
  | null => exact .inl rfl
  | text | integer | float | date | boolean | option => exact .inr rfl

/-- Under a type of numbers coercion yields null and numbers only. -/
theorem cases_of_isNumeric (h : type.Yields value) (hnumeric : type.IsNumeric) :
    value = .null ∨ (∃ n, value = .integer n) ∨ ∃ x, value = .float x := by
  cases h with
  | null => exact .inl rfl
  | @integer n hfits => exact .inr (.inl ⟨n, rfl⟩)
  | float x => exact .inr (.inr ⟨_, rfl⟩)
  | text | date | boolean | option => rcases hnumeric with htype | htype <;> cases htype

/-- Coercion yields no infinities and no `nan`. -/
theorem exists_eq_finite {x : Binary64} (h : type.Yields (.float x)) : ∃ y, x = .finite y := by
  cases h with
  | float y => exact ⟨y, rfl⟩

/-- Of the values that coercion yields only null is written as null. -/
theorem toJson_eq_null_iff (h : type.Yields value) : value.toJson = .null ↔ value = .null := by
  cases h with
  | null => simp [TypedValue.toJson]
  | text | integer | float | date | boolean | option =>
    simp [TypedValue.toJson, Json.Number.ofBinary64?]

end FieldType.Yields

/-- Every cell of a row holds what coercion yields under the type of some field. -/
theorem RawRecord.exists_yields_of_mem_cells {r : RawRecord} {s : Schema}
    {cell : String × TypedValue} (h : cell ∈ (r.coerce s).cells) :
    ∃ f ∈ s.fields, f.type.Yields cell.2 := by
  obtain ⟨f, hf, rfl⟩ := List.mem_map.1 h
  exact ⟨f, hf, r.yields_coerceField f⟩

/-- Every condition of a resolved clause is on a field that was found in the schema, and asks for
numbers only where the field is one of numbers. -/
theorem WhereClause.exists_field?_of_resolve {s : Schema} {c : WhereClause}
    {conditions : List FieldCondition} (h : c.resolve s = .ok conditions) {k : FieldCondition}
    (hk : k ∈ conditions) :
    ∃ f, s.field? k.field = some f ∧ (k.condition.operator.NeedsNumber → f.type.IsNumeric) := by
  obtain ⟨-, hfields, -, hall⟩ := resolve_eq_ok_iff.1 h
  have hentry : ∃ entry ∈ c.requests, resolveRequest entry = .ok k := by
    generalize c.requests = requests at hall
    clear h hfields
    induction hall with
    | nil => cases hk
    | @cons entry first _ _ hfirst _ ih =>
      rcases List.mem_cons.1 hk with rfl | hk
      · exact ⟨entry, List.mem_cons_self, hfirst⟩
      · obtain ⟨entry', hmem, hresolve⟩ := ih hk
        exact ⟨entry', List.mem_cons_of_mem entry hmem, hresolve⟩
  obtain ⟨entry, hmem, hresolve⟩ := hentry
  obtain ⟨hfield, hoperator⟩ := field_of_resolveRequest hresolve
  rw [hfield, hoperator]
  exact checkField_eq_ok_iff_field?.1 (hfields entry hmem)

/-- What the conditions of resolved clauses meet in a row, under any schema.  The name of a
condition leads to the same place in the row as in the schema, and the value of the cell there is
null or of the type of the field there, which is the field that was checked; a condition that asks
for numbers meets null, integers and floating-point numbers only.  All floating-point numbers in the
row are finite, so a cell is written as null exactly where its value is null. -/
theorem resolve_cell_types (records : List RawRecord) (s : Schema) (row : TypedRecord)
    (hrow : row ∈ coerceAll records s) :
    (∀ (c : WhereClause) (conditions : List FieldCondition), c.resolve s = .ok conditions →
      ∀ k ∈ conditions, ∃ i f value,
        s.fields.findIdx? (fun f => f.name = k.field) = some i ∧
        row.cells.findIdx? (fun cell => cell.1 = k.field) = some i ∧
        s.fields[i]? = some f ∧ row.cells[i]? = some (k.field, value) ∧
        s.field? k.field = some f ∧ row.get? k.field = some value ∧
        (value = .null ∨ value.type? = some f.type) ∧
        (k.condition.operator.NeedsNumber → f.type.IsNumeric ∧
          (value = .null ∨ (∃ n, value = .integer n) ∨ ∃ x, value = .float x))) ∧
    ∀ cell ∈ row.cells, (∀ x, cell.2 = .float x → ∃ y, x = .finite y) ∧
      (cell.2.toJson = .null ↔ cell.2 = .null) := by
  obtain ⟨r, -, rfl⟩ := List.mem_map.1 hrow
  constructor
  · intro c conditions hresolve k hk
    obtain ⟨f, hfield, hnumeric⟩ := WhereClause.exists_field?_of_resolve hresolve hk
    have hyields : f.type.Yields (r.coerceField f) := r.yields_coerceField f
    have hname : f.name = k.field := by simpa using List.find?_some hfield
    obtain ⟨i, hplace, hf⟩ : ∃ i, s.fields.findIdx? (fun f => f.name = k.field) = some i ∧
        s.fields[i]? = some f := by
      rw [Schema.field?, List.find?_eq_bind_findIdx?_getElem?] at hfield
      exact Option.bind_eq_some_iff.1 hfield
    have hcell : (r.coerce s).cells[i]? = some (k.field, r.coerceField f) := by
      rw [← hname]
      simp [RawRecord.coerce, hf]
    have hget : (r.coerce s).get? k.field = some (r.coerceField f) := by
      rw [r.get?_coerce, hfield, Option.map_some]
    refine ⟨i, f, r.coerceField f, hplace, ?_, hf, hcell, hfield, hget,
      hyields.eq_null_or_type?_eq, ?_⟩
    · rw [r.findIdx?_cells_coerce, hplace]
    · intro hneeds
      exact ⟨hnumeric hneeds, hyields.cases_of_isNumeric (hnumeric hneeds)⟩
  · intro cell hcell
    obtain ⟨f, -, hyields⟩ := RawRecord.exists_yields_of_mem_cells hcell
    refine ⟨?_, hyields.toJson_eq_null_iff⟩
    intro x hx
    rw [hx] at hyields
    exact hyields.exists_eq_finite

/-- Two fields have one name and one display name, and one of them is of numbers.  The condition on
the name is checked against the first and meets its cell, not that of the second. -/
theorem resolve_cell_types_repeated_name :
    let s : Schema := ⟨[⟨"Name", "name", .text, []⟩, ⟨"N", "n", .float, []⟩, ⟨"N", "n", .text, []⟩]⟩
    let r : RawRecord := .ofJson (.object [("N", .string " 2.50 "), ("Name", .string "x")])
    let c : WhereClause := ⟨[("n", ⟨.gt, .number (.integer ⟨1, by decide, by decide⟩)⟩)]⟩
    let k : FieldCondition := ⟨"n", .greaterThan (.ofInt 1)⟩
    let row := r.coerce s
    c.resolve s = .ok [k] ∧ row ∈ coerceAll [r] s ∧
      ∃ i value, s.fields.findIdx? (fun f => f.name = "n") = some i ∧
        row.cells[i]? = some ("n", value) ∧ ∃ x, value = .float x := by
  intro s r c k row
  have hresolve : c.resolve s = .ok [k] := rfl
  have hrow : row ∈ coerceAll [r] s := List.mem_cons_self
  refine ⟨hresolve, hrow, ?_⟩
  obtain ⟨hcells, -⟩ := resolve_cell_types [r] s row hrow
  obtain ⟨i, f, value, hplace, -, -, hcell, hfield, hget, htype, -⟩ :=
    hcells c [k] hresolve k List.mem_cons_self
  have hvalue : row.get? "n" ≠ some .null := by decide +kernel
  refine ⟨i, value, hplace, hcell, ?_⟩
  rcases htype with rfl | htype
  · exact absurd hget hvalue
  · cases hfield
    cases value with
    | float x => exact ⟨x, rfl⟩
    | _ => cases htype

end LooseRecords
