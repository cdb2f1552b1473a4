import LooseRecords.Proofs.Schema.Inferred
import Mathlib.Data.List.Induction

/-!
# Inferred schemas without the pass that builds them

A schema is inferred in one pass over all entries of all records, which opens a column whenever a
display name comes up for the first time.  The result can be said without this pass.  Write down the
display names of all entries in a row and strike out every name that stood there before: these are
the fields, in this order.  What a field has as its type and its options is what its values show, and
its values are those that the records have under its display name, one after the other.

The invariant of the pass is `Columns.keys_push_of_eq_eraseDups`: at any moment the open columns are
the first sightings among the display names seen so far.
-/

namespace LooseRecords

/-! ### First sightings -/

section FirstSightings

variable {α : Type} [DecidableEq α]

/-- One more sighting is a first one exactly where it was not seen before. -/
theorem eraseDups_concat (seen : List α) (x : α) :
    (seen ++ [x]).eraseDups = if x ∈ seen then seen.eraseDups else seen.eraseDups ++ [x] := by
  rw [List.eraseDups_append, List.removeAll]
  by_cases hseen : x ∈ seen
  · simp [hseen]
  · simp [hseen, List.eraseDups_cons]

/-- First sightings stand in the order in which they were made. -/
theorem pairwise_idxOf_eraseDups (seen : List α) :
    seen.eraseDups.Pairwise fun a b => seen.idxOf a < seen.idxOf b := by
  induction seen using List.reverseRecOn with
  | nil => exact .nil
  | append_singleton seen x ih =>
    have hplace : ∀ {a : α}, a ∈ seen → (seen ++ [x]).idxOf a = seen.idxOf a :=
      fun ha => List.idxOf_append_of_mem ha
    have hbefore : seen.eraseDups.Pairwise fun a b =>
        (seen ++ [x]).idxOf a < (seen ++ [x]).idxOf b := by
      refine ih.imp_of_mem ?_
      intro a b ha hb hlt
      rw [hplace (List.mem_eraseDups.1 ha), hplace (List.mem_eraseDups.1 hb)]
      exact hlt
    rw [eraseDups_concat]
    by_cases hseen : x ∈ seen
    · rw [if_pos hseen]
      exact hbefore
    · rw [if_neg hseen, List.pairwise_append]
      refine ⟨hbefore, List.pairwise_singleton _ _, ?_⟩
      intro a ha b hb
      have hmem : a ∈ seen := List.mem_eraseDups.1 ha
      rw [List.mem_singleton.1 hb, hplace hmem, List.idxOf_append_of_notMem hseen,
        List.idxOf_cons_self]
      exact List.idxOf_lt_length_of_mem hmem

theorem nodup_eraseDups (seen : List α) : seen.eraseDups.Nodup :=
  (pairwise_idxOf_eraseDups seen).imp fun hlt heq => by simp [heq] at hlt

end FirstSightings

/-- The distinct members of a list are the first sightings in it. -/
theorem Inference.distinct_eq_eraseDups (tokens : List String) : distinct tokens = tokens.eraseDups := by
  unfold distinct
  induction tokens using List.reverseRecOn with
  | nil => rfl
  | append_singleton tokens t ih =>
    rw [List.foldl_append, List.foldl_cons, List.foldl_nil, eraseDups_concat, ← ih]
    generalize tokens.foldl (fun seen t => if t ∈ seen then seen else t :: seen) [] = seen at ih ⊢
    have hseen : t ∈ seen ↔ t ∈ tokens := by
      rw [← List.mem_reverse, ih, List.mem_eraseDups]
    by_cases ht : t ∈ tokens
    · rw [if_pos (hseen.2 ht), if_pos ht]
    · rw [if_neg (mt hseen.1 ht), if_neg ht, List.reverse_cons]

/-! ### The pass over the entries -/

namespace Columns

/-- Where the open columns are the first sightings so far, they still are after another entry. -/
theorem keys_push_of_eq_eraseDups {columns : Columns} {seen : List String}
    (h : columns.keys = seen.eraseDups) (display : String) (value : Scalar) :
    (columns.push display value).keys = (seen ++ [display]).eraseDups := by
  rw [keys_push, eraseDups_concat, h]
  simp only [List.mem_eraseDups]

theorem keys_foldl_push (entries : Entries Scalar) {columns : Columns} {seen : List String}
    (h : columns.keys = seen.eraseDups) :
    (entries.foldl (fun columns (display, value) => columns.push display value) columns).keys =
      (seen ++ entries.keys).eraseDups := by
  induction entries generalizing columns seen with
  | nil => simpa [Entries.keys] using h
  | cons entry rest ih =>
    have hstep := keys_push_of_eq_eraseDups h entry.1 entry.2
    rw [List.foldl_cons, ih hstep, Entries.keys_cons, List.append_assoc, List.singleton_append]

end Columns

/-- The display names of the entries of all records, in the order in which they come up. -/
def sightings (records : List RawRecord) : List String :=
  records.flatMap (·.entries.keys)

/-- A display name comes up where some record has a value under it, be it null. -/
theorem mem_sightings {records : List RawRecord} {display : String} :
    display ∈ sightings records ↔ ∃ r ∈ records, (r.get? display).isSome = true := by
  have hrecord (r : RawRecord) : display ∈ r.entries.keys ↔ (r.get? display).isSome = true := by
    rw [RawRecord.get?, Entries.get?, List.lookup_isSome_iff, Entries.keys]
    simp
  rw [sightings, List.mem_flatMap]
  simp only [hrecord]

namespace Columns

/-- The columns of records are opened by the first sightings. -/
theorem keys_ofRecords (records : List RawRecord) :
    (ofRecords records).keys = (sightings records).eraseDups := by
  have hnone : Entries.keys ([] : Columns) = ([] : List String).eraseDups := rfl
  have hkeys := keys_foldl_push (records.flatMap (·.entries)) hnone
  have hsightings : Entries.keys (records.flatMap (·.entries)) = sightings records :=
    List.map_flatMap
  rw [List.nil_append, hsightings] at hkeys
  rw [ofRecords_eq, Entries.keys, List.map_map]
  exact hkeys

end Columns

/-! ### The schema -/

/-- The fields of a schema stand in the order of the first sightings. -/
theorem Schema.map_display_infer (limits : Thresholds) (records : List RawRecord) :
    (infer limits records).fields.map (·.display) = (sightings records).eraseDups := by
  have hfields := InferredField.map_display_ofColumns limits [] 0 (Columns.ofRecords records)
  rw [Columns.keys_ofRecords] at hfields
  simp only [infer, List.map_map]
  exact hfields

/-- What a schema says of its fields, leaving the names aside that are given to them: there is one
field for each display name that comes up in the records, in the order of the first sightings, and
its type and its options are those inferred from the values that the records have under the display
name, in their order.  A null that is written out is a value, a name that a record does not have is
none. -/
theorem Schema.infer_eq_first_sightings (limits : Thresholds) (records : List RawRecord) :
    let s := infer limits records
    let displays := s.fields.map (·.display)
    (s.fields.map fun f => (f.display, f.type, f.options)) =
        (sightings records).eraseDups.map (fun display =>
          let found := Inference.ofValues limits (records.filterMap (·.get? display))
          (display, found.type, found.values)) ∧
      displays.Nodup ∧
      (∀ display, display ∈ displays ↔ ∃ r ∈ records, (r.get? display).isSome = true) ∧
      displays.Pairwise fun a b => (sightings records).idxOf a < (sightings records).idxOf b := by
  intro s displays
  have hdisplays : displays = (sightings records).eraseDups := map_display_infer limits records
  refine ⟨?_, ?_, ?_, ?_⟩
  · have hfield : ∀ f ∈ s.fields, (f.display, f.type, f.options) =
        (f.display, (Inference.ofValues limits (records.filterMap (·.get? f.display))).type,
          (Inference.ofValues limits (records.filterMap (·.get? f.display))).values) := by
      intro f hf
      obtain ⟨htype, hoptions⟩ := inference_of_mem_infer hf
      rw [htype, hoptions]
    rw [← hdisplays, List.map_map]
    exact List.map_congr_left hfield
  · exact (valid_infer limits records).nodup_displays
  · intro display
    rw [hdisplays, List.mem_eraseDups, mem_sightings]
  · rw [hdisplays]
    exact pairwise_idxOf_eraseDups (sightings records)

-- The null that is written out is among the values of its field, and no truth value; the field that
-- the second record does not have keeps the type of the first.
example :
    let first := RawRecord.ofJson (.object [("Paid", .bool true), ("Sent", .bool true)])
    let second := RawRecord.ofJson (.object [("Late", .bool false), ("Paid", .null)])
    (Schema.infer {} [first, second]).fields.map (fun f => (f.display, f.type)) =
      [("Paid", .text), ("Sent", .boolean), ("Late", .boolean)] := by
  decide +kernel

end LooseRecords
