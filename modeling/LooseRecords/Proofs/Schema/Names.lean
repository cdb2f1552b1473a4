import LooseRecords.Proofs.Schema.Sightings

/-!
# New data rename no old field

The name of a field depends on its display name, on its place and on the names of the fields before
it, and on nothing else: neither on the values of the records nor on what comes after
(`InferredField.map_names_ofColumns`).  Records that are added at the end leave the first sightings
of the display names before them as they are.  So every field keeps its place and its name, however
many records follow and whatever keys they have.
-/

namespace LooseRecords

namespace Naming

/-- Display names with the names that are given to them one after the other, when some names are
taken and the first field stands at a position. -/
def allocateAll (taken : List String) (position : Nat) : List String → List (String × String)
  | [] => []
  | display :: rest =>
      let name := allocate taken display position
      (display, name) :: allocateAll (name :: taken) (position + 1) rest

/-- Display names that follow change nothing about the names that are given before them. -/
theorem allocateAll_prefix (taken : List String) (position : Nat) (displays more : List String) :
    allocateAll taken position displays <+: allocateAll taken position (displays ++ more) := by
  induction displays generalizing taken position with
  | nil => exact List.nil_prefix
  | cons display rest ih => exact List.cons_prefix_cons.2 ⟨rfl, ih _ _⟩

end Naming

/-- The names of fields are given to the display names of their columns, whatever the thresholds and
the values are. -/
theorem InferredField.map_names_ofColumns (limits : Thresholds) (taken : List String)
    (position : Nat) (columns : Columns) :
    (ofColumns limits taken position columns).map (fun f => (f.display, f.name)) =
      Naming.allocateAll taken position columns.keys := by
  induction columns generalizing taken position with
  | nil => rfl
  | cons column rest ih => exact congrArg (List.cons _) (ih _ _)

namespace Schema

/-- The names of an inferred schema are given to the first sightings of the display names. -/
theorem map_names_infer (limits : Thresholds) (records : List RawRecord) :
    (infer limits records).fields.map (fun f => (f.display, f.name)) =
      Naming.allocateAll [] 0 (sightings records).eraseDups := by
  have hnames := InferredField.map_names_ofColumns limits [] 0 (Columns.ofRecords records)
  rw [Columns.keys_ofRecords] at hnames
  simp only [infer, List.map_map]
  exact hnames

/-- Records that are added at the end leave the fields of the records before them at their places
and with their names, even if the thresholds change: the display names with their names at first are
a prefix of those after. -/
theorem infer_append_keeps_names (limits limits' : Thresholds) (records more : List RawRecord) :
    (infer limits records).fields.map (fun f => (f.display, f.name)) <+:
      (infer limits' (records ++ more)).fields.map (fun f => (f.display, f.name)) := by
  have hsightings : sightings (records ++ more) = sightings records ++ sightings more :=
    List.flatMap_append
  rw [map_names_infer, map_names_infer, hsightings, List.eraseDups_append]
  exact Naming.allocateAll_prefix _ _ _ _

-- The keys that come later would suggest the very names of the fields before them.
example :
    let first := RawRecord.ofJson (.object [("A", .null), ("a", .null), ("%%", .null)])
    let later := RawRecord.ofJson (.object [("field3", .null), ("a2", .null), ("A", .null)])
    (Schema.infer {} [first]).names = ["a", "a2", "field3"] ∧
      (Schema.infer {} [first, later]).names = ["a", "a2", "field3", "field32", "a22"] := by
  decide +kernel

end Schema
end LooseRecords
