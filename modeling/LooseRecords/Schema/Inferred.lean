import LooseRecords.Inference
import LooseRecords.Naming
import LooseRecords.Record

/-!
# Inferred schemas

The schema of a list of raw records has one field for each display name, in the order in which the
names first come up. The type of a field is inferred from the values that the records hold under its
display name; a record that does not have the name contributes nothing.

The values are collected in one pass over all entries. It keeps the columns in a row and, beside them,
the position of each by its display name, so that a value is added at a position and no column is
searched for. The positions are those of the columns at any moment: `Columns.Pass` carries the proof.
-/

namespace LooseRecords

/-- The values under each display name. -/
abbrev Columns := Entries (List Scalar)

namespace Columns

/-- A pass over records: the columns opened so far, the values of each last one first, and the position
of each column by its display name. -/
structure Pass where
  columns : Columns
  positions : Entries Nat
  /-- A position is that of the column of its display name, and each column has its position. -/
  placed : ∀ display i, positions.get? display = some i ↔ columns.keys[i]? = some display

namespace Pass

/-- The pass before the first record. -/
def start : Pass :=
  ⟨[], [], by simp [Entries.get?, Entries.keys]⟩

/-- A position lies within the columns, and there is the column of the display name. -/
theorem exists_of_get?_positions {pass : Pass} {display : String} {i : Nat}
    (h : pass.positions.get? display = some i) :
    ∃ hi : i < pass.columns.length, pass.columns[i].1 = display := by
  have hkey := (pass.placed display i).1 h
  rw [Entries.keys, List.getElem?_map, Option.map_eq_some_iff] at hkey
  obtain ⟨column, hcolumn, rfl⟩ := hkey
  obtain ⟨hi, rfl⟩ := List.getElem?_eq_some_iff.1 hcolumn
  exact ⟨hi, rfl⟩

/-- A display name without a column gets the position behind all others. -/
theorem placed_openAtEnd (pass : Pass) {display : String} (h : pass.positions.get? display = none)
    (other : String) (i : Nat) :
    (pass.positions.insert display pass.columns.length).get? other = some i ↔
      (Entries.keys (pass.columns ++ [(display, [])]))[i]? = some other := by
  have hlength : pass.columns.keys.length = pass.columns.length := List.length_map _
  rw [Entries.get?_insert, Entries.keys_concat, Entries.getElem?_concat, hlength]
  by_cases hother : other = display
  · subst hother
    by_cases hi : i = pass.columns.length
    · simp [hi]
    · rw [if_pos rfl, if_neg hi, ← pass.placed other i, h]
      simp [Ne.symm hi]
  · by_cases hi : i = pass.columns.length
    · rw [if_neg hother, if_pos hi, pass.placed other i, hi, ← hlength,
        List.getElem?_eq_none (Nat.le_refl _)]
      simp [Ne.symm hother]
    · rw [if_neg hother, if_neg hi]
      exact pass.placed other i

/-- Opens a column at the end for a display name that has none. -/
def openAtEnd (pass : Pass) (display : String) (h : pass.positions.get? display = none) : Pass where
  columns := pass.columns ++ [(display, [])]
  positions := pass.positions.insert display pass.columns.length
  placed := pass.placed_openAtEnd h

/-- Adds a value to the column at a position. -/
def add (pass : Pass) (i : Nat) (hi : i < pass.columns.length) (value : Scalar) : Pass where
  columns := pass.columns.set i (pass.columns[i].1, value :: pass.columns[i].2)
  positions := pass.positions
  placed := by
    rw [Entries.keys_set_same hi]
    exact pass.placed

/-- Adds a value to the column of a display name, which is opened if there is none. -/
def push (pass : Pass) (display : String) (value : Scalar) : Pass :=
  match h : pass.positions.get? display with
  | some i => pass.add i (exists_of_get?_positions h).1 value
  | none => (pass.openAtEnd display h).add pass.columns.length (by simp [openAtEnd]) value

end Pass

/-- The columns of records, the values of each in the order of the records. -/
def ofRecords (records : List RawRecord) : Columns :=
  let addRecord (pass : Pass) (r : RawRecord) : Pass :=
    r.entries.foldl (fun pass (display, value) => pass.push display value) pass
  let pass := records.foldl addRecord .start
  pass.columns.map fun (display, values) => (display, values.reverse)

end Columns

/-- A field with what led to it. -/
structure InferredField where
  display : String
  /-- The name that the display name suggests. -/
  base : String
  name : String
  /-- The number of values observed. -/
  count : Nat
  inference : Inference
  deriving DecidableEq, Repr

namespace InferredField

/-- The field itself. -/
def field (f : InferredField) : Field :=
  ⟨f.display, f.name, f.inference.type, f.inference.values⟩

/-- The fields of columns, given the names that are taken and the position of the first column. -/
def ofColumns (limits : Thresholds) (taken : List String) (position : Nat) :
    Columns → List InferredField
  | [] => []
  | (display, values) :: rest =>
      let name := Naming.allocate taken display position
      let inference := Inference.ofValues limits values
      ⟨display, Naming.base display position, name, values.length, inference⟩ ::
        ofColumns limits (name :: taken) (position + 1) rest

/-- The fields of records. -/
def ofRecords (limits : Thresholds) (records : List RawRecord) : List InferredField :=
  ofColumns limits [] 0 (Columns.ofRecords records)

end InferredField

/-- The schema of records. -/
def Schema.infer (limits : Thresholds) (records : List RawRecord) : Schema :=
  ⟨(InferredField.ofRecords limits records).map (·.field)⟩

end LooseRecords
