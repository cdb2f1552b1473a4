import LooseRecords.Proofs.Coercion.Values
import LooseRecords.Record

/-!
# Cells of typed records

The row of a raw record has, under the name of a field, what the field makes of the record, a value
that coercion yields under the type of the field; of several fields with one name the first counts.
The JSON object of a row holds the JSON values of the same cells.
-/

namespace LooseRecords

/-- The cell of a row under a name is that of the first field with the name. -/
theorem RawRecord.get?_coerce (r : RawRecord) (s : Schema) (name : String) :
    (r.coerce s).get? name = (s.field? name).map r.coerceField := by
  unfold RawRecord.coerce TypedRecord.get? Schema.field?
  induction s.fields with
  | nil => rfl
  | cons f rest ih =>
    rw [List.map_cons, List.lookup_cons, List.find?_cons]
    by_cases hname : f.name = name
    · simp [hname]
    · rw [beq_false_of_ne (Ne.symm hname), decide_eq_false hname]
      exact ih

/-- A name comes up at the same place in a row and in its schema. -/
theorem RawRecord.findIdx?_cells_coerce (r : RawRecord) (s : Schema) (name : String) :
    (r.coerce s).cells.findIdx? (fun cell => cell.1 = name) =
      s.fields.findIdx? fun f => f.name = name :=
  List.findIdx?_map

/-- The cell of a field has a value that coercion yields under the type of the field. -/
theorem RawRecord.yields_coerceField (r : RawRecord) (f : Field) :
    f.type.Yields (r.coerceField f) := by
  unfold coerceField
  cases r.get? f.display with
  | none => exact .null f.type
  | some raw => exact raw.yields_coerce f.type

/-- Under a key stands what was made of the value that stood there. -/
theorem Entries.get?_map {α β : Type} (f : α → β) (entries : Entries α) (key : String) :
    get? (entries.map (Prod.map id f)) key = (entries.get? key).map f := by
  unfold get?
  induction entries with
  | nil => rfl
  | cons entry rest ih =>
    rw [List.map_cons, List.lookup_cons, List.lookup_cons, Prod.map_fst, id]
    by_cases hkey : key = entry.1
    · simp [hkey]
    · rw [beq_false_of_ne hkey]
      exact ih

/-- The JSON object of a row has the JSON value of a cell under the name of the cell. -/
theorem TypedRecord.lookup_toJson (r : TypedRecord) (name : String) :
    ∃ entries, r.toJson = .object entries ∧
      entries.lookup name = (r.get? name).map TypedValue.toJson :=
  ⟨_, rfl, Entries.get?_map TypedValue.toJson r.cells name⟩

/-- A record with one entry has its value. -/
theorem RawRecord.get?_ofJson_singleton (display : String) (value : Json) :
    (RawRecord.ofJson (.object [(display, value)])).get? display = some (.ofJson value) := by
  simp [RawRecord.ofJson, RawRecord.ofObject, RawRecord.insert, RawRecord.empty, RawRecord.get?,
    Entries.insert, Entries.get?]

end LooseRecords
