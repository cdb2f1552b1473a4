import LooseRecords.Proofs.Inference
import LooseRecords.Proofs.Naming
import LooseRecords.Proofs.Number.Word
import LooseRecords.Proofs.Record
import LooseRecords.Proofs.Schema.Columns
import LooseRecords.Proofs.Schema.Validity
import LooseRecords.Schema.Inferred

/-!
# Inferred schemas are valid and fit their records

The fields of an inferred schema have distinct names, and each comes from the column of its display
name.  There is one column for each display name, names are never blank, and only categories have
values to list, so the schema is valid whatever the keys of the records are.

A record that took part in the inference is coerced to cells that are found under the names of the
fields, and a cell is null only where the record says nothing, or where a field of integers meets a
whole number outside the range of a word.
-/

namespace LooseRecords

namespace InferredField

/-- The names of fields differ from those that are taken. -/
theorem name_not_mem_of_mem_ofColumns {limits : Thresholds} {taken : List String} {position : Nat}
    {columns : Columns} {f : InferredField} (h : f ∈ ofColumns limits taken position columns) :
    f.name ∉ taken := by
  induction columns generalizing taken position with
  | nil => cases h
  | cons column rest ih =>
    rcases List.mem_cons.1 h with rfl | h
    · exact Naming.allocate_not_mem taken column.1 position
    · exact fun hmem => ih h (List.mem_cons_of_mem _ hmem)

/-- The names of fields are distinct, as each is taken for those that follow. -/
theorem nodup_names_ofColumns (limits : Thresholds) (taken : List String) (position : Nat)
    (columns : Columns) : ((ofColumns limits taken position columns).map (·.name)).Nodup := by
  induction columns generalizing taken position with
  | nil => exact List.nodup_nil
  | cons column rest ih =>
    refine List.nodup_cons.2 ⟨?_, ih _ _⟩
    intro hmem
    obtain ⟨f, hf, hname⟩ := List.mem_map.1 hmem
    exact name_not_mem_of_mem_ofColumns hf (hname ▸ List.mem_cons_self)

/-- A field comes from the column of its display name. -/
theorem exists_column_of_mem_ofColumns {limits : Thresholds} {taken : List String} {position : Nat}
    {columns : Columns} {f : InferredField} (h : f ∈ ofColumns limits taken position columns) :
    ∃ values, (f.display, values) ∈ columns ∧ f.inference = Inference.ofValues limits values := by
  induction columns generalizing taken position with
  | nil => cases h
  | cons column rest ih =>
    rcases List.mem_cons.1 h with rfl | h
    · exact ⟨column.2, List.mem_cons_self, rfl⟩
    · obtain ⟨values, hmem, hfound⟩ := ih h
      exact ⟨values, List.mem_cons_of_mem _ hmem, hfound⟩

/-- The name of a field is the one that is allocated to its display name. -/
theorem exists_allocate_of_mem_ofColumns {limits : Thresholds} {taken : List String}
    {position : Nat} {columns : Columns} {f : InferredField}
    (h : f ∈ ofColumns limits taken position columns) :
    ∃ taken position, f.name = Naming.allocate taken f.display position := by
  induction columns generalizing taken position with
  | nil => cases h
  | cons column rest ih =>
    rcases List.mem_cons.1 h with rfl | h
    · exact ⟨taken, position, rfl⟩
    · exact ih h

/-- The display names of fields are those of the columns. -/
theorem map_display_ofColumns (limits : Thresholds) (taken : List String) (position : Nat)
    (columns : Columns) :
    (ofColumns limits taken position columns).map (·.display) = columns.keys := by
  induction columns generalizing taken position with
  | nil => rfl
  | cons column rest ih => exact congrArg (column.1 :: ·) (ih _ _)

end InferredField

/-- Only categories list values. -/
theorem Inference.values_eq_nil {inference : Inference} (h : inference.type ≠ .option) :
    inference.values = [] := by
  cases inference with
  | options values => exact absurd rfl h
  | _ => rfl

namespace Schema

/-- The names of an inferred schema are distinct. -/
theorem nodup_names_infer (limits : Thresholds) (records : List RawRecord) :
    (infer limits records).names.Nodup := by
  have h := InferredField.nodup_names_ofColumns limits [] 0 (Columns.ofRecords records)
  unfold infer names
  rw [List.map_map]
  exact h

/-- The type and the options of an inferred field are those inferred from the values that the
records have under its display name. -/
theorem inference_of_mem_infer {limits : Thresholds} {records : List RawRecord} {f : Field}
    (h : f ∈ (infer limits records).fields) :
    let found := Inference.ofValues limits (records.filterMap (·.get? f.display))
    f.type = found.type ∧ f.options = found.values := by
  obtain ⟨inferred, hmem, rfl⟩ := List.mem_map.1 h
  obtain ⟨values, hcolumn, hfound⟩ := InferredField.exists_column_of_mem_ofColumns hmem
  have hvalues : values = records.filterMap (·.get? inferred.display) :=
    Columns.eq_filterMap_get?_of_mem_ofRecords hcolumn
  rw [hvalues] at hfound
  exact ⟨congrArg Inference.type hfound, congrArg Inference.values hfound⟩

/-- An inferred schema keeps the rules of schemas from outside. -/
theorem valid_infer (limits : Thresholds) (records : List RawRecord) :
    (infer limits records).Valid where
  name_not_blank := by
    intro f hf
    obtain ⟨inferred, hmem, rfl⟩ := List.mem_map.1 hf
    obtain ⟨taken, position, hname⟩ := InferredField.exists_allocate_of_mem_ofColumns hmem
    show Text.isBlankText inferred.name = false
    rw [hname]
    exact Naming.isBlankText_allocate taken inferred.display position
  nodup_names := nodup_names_infer limits records
  nodup_displays := by
    have hkeys := Columns.nodup_keys_ofRecords records
    rw [← InferredField.map_display_ofColumns limits [] 0] at hkeys
    unfold infer
    rw [List.map_map]
    exact hkeys
  options_eq_nil := by
    intro f hf htype
    obtain ⟨inferred, -, rfl⟩ := List.mem_map.1 hf
    exact Inference.values_eq_nil htype

/-- Whatever keys and values records have and wherever the thresholds lie, the schema inferred from
them passes the check: its names are not blank and distinct, so are its display names, and only
fields of categories list options. -/
theorem validate_infer (limits : Thresholds) (records : List RawRecord) :
    let s := infer limits records
    s.validate = .ok () ∧ (∀ f ∈ s.fields, Text.isBlankText f.name = false) ∧
      (s.fields.map (·.name)).Nodup ∧ (s.fields.map (·.display)).Nodup ∧
      ∀ f ∈ s.fields, f.type ≠ .option → f.options = [] := by
  intro s
  have hvalid := valid_infer limits records
  exact ⟨validate_eq_ok_iff.2 hvalid, hvalid.name_not_blank, hvalid.nodup_names,
    hvalid.nodup_displays, hvalid.options_eq_nil⟩

/-- Names with a number and names made from a position meet keys that look just like them. -/
example :
    (infer {} [.ofJson (.object (["a2", "A", "a", "", "%%", "field3"].map (·, .null)))]).names =
      ["a2", "a", "a3", "field4", "field5", "field3"] := by
  decide +kernel

end Schema

end LooseRecords
