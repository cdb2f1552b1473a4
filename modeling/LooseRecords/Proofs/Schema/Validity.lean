import LooseRecords.Schema.Validity
import Mathlib.Logic.Basic

/-!
# What makes a schema valid

The check of a schema goes from field to field and keeps the names it has met.  It passes exactly
where the whole schema keeps four rules, `Schema.Valid`, none of which speaks of an order of fields.
One of them is that names are distinct, which lets every field be found under its name.
-/

namespace LooseRecords
namespace Schema

/-- The rules of a schema from outside. -/
structure Valid (s : Schema) : Prop where
  name_not_blank : ∀ f ∈ s.fields, Text.isBlankText f.name = false
  nodup_names : (s.fields.map (·.name)).Nodup
  nodup_displays : (s.fields.map (·.display)).Nodup
  options_eq_nil : ∀ f ∈ s.fields, f.type ≠ .option → f.options = []

/-- What the first field adds to the rules. -/
theorem valid_cons_iff {f : Field} {rest : List Field} :
    Valid ⟨f :: rest⟩ ↔ (Text.isBlankText f.name = false ∧ (f.type ≠ .option → f.options = [])) ∧
      (f.name ∉ rest.map (·.name) ∧ f.display ∉ rest.map (·.display)) ∧ Valid ⟨rest⟩ := by
  constructor
  · rintro ⟨hblank, hnames, hdisplays, hoptions⟩
    obtain ⟨hfirst, hrest⟩ := List.forall_mem_cons.1 hblank
    obtain ⟨hname, hnames⟩ := List.nodup_cons.1 hnames
    obtain ⟨hdisplay, hdisplays⟩ := List.nodup_cons.1 hdisplays
    obtain ⟨hoption, hoptions⟩ := List.forall_mem_cons.1 hoptions
    exact ⟨⟨hfirst, hoption⟩, ⟨hname, hdisplay⟩, hrest, hnames, hdisplays, hoptions⟩
  · rintro ⟨⟨hfirst, hoption⟩, ⟨hname, hdisplay⟩, hrest, hnames, hdisplays, hoptions⟩
    exact ⟨List.forall_mem_cons.2 ⟨hfirst, hrest⟩, List.nodup_cons.2 ⟨hname, hnames⟩,
      List.nodup_cons.2 ⟨hdisplay, hdisplays⟩, List.forall_mem_cons.2 ⟨hoption, hoptions⟩⟩

/-- A field has no fault where it breaks no rule with the fields before it. -/
theorem fieldFault?_eq_none_iff {names displays : List String} {f : Field} :
    fieldFault? names displays f = none ↔
      (Text.isBlankText f.name = false ∧ (f.type ≠ .option → f.options = [])) ∧
        f.name ∉ names ∧ f.display ∉ displays := by
  unfold fieldFault?
  split
  · next h => simp [h]
  · next hname =>
    split
    · next h => simp [h]
    · next hfresh =>
      split
      · next h => simp [h]
      · next hdisplay =>
        split
        · next h => simp [h.1, h.2]
        · next hoptions =>
          have hnone : f.type ≠ .option → f.options = [] := by
            intro htype
            exact Decidable.of_not_not fun hsome => hoptions ⟨htype, hsome⟩
          exact iff_of_true rfl ⟨⟨Bool.eq_false_iff.2 hname, hnone⟩, hfresh, hdisplay⟩

/-- Keys differ from one more key where no field has this key and they differ from the others. -/
theorem forall_notMem_cons_iff {key : Field → String} {fields : List Field} {first : String}
    {others : List String} :
    (∀ f ∈ fields, key f ∉ first :: others) ↔
      first ∉ fields.map key ∧ ∀ f ∈ fields, key f ∉ others := by
  simp only [List.mem_cons, not_or, List.mem_map, not_exists, not_and]
  exact ⟨fun h => ⟨fun f hf => (h f hf).1, fun f hf => (h f hf).2⟩,
    fun h f hf => ⟨h.1 f hf, h.2 f hf⟩⟩

/-- Fields pass the check where they break no rule, neither among each other nor with the fields
before them. -/
theorem validateFrom_eq_ok_iff {names displays : List String} {fields : List Field} :
    validateFrom names displays fields = .ok () ↔
      (∀ f ∈ fields, f.name ∉ names) ∧ (∀ f ∈ fields, f.display ∉ displays) ∧ Valid ⟨fields⟩ := by
  induction fields generalizing names displays with
  | nil =>
    refine iff_of_true rfl ⟨?_, ?_, ⟨?_, ?_, ?_, ?_⟩⟩ <;> simp
  | cons f rest ih =>
    have hstep : validateFrom names displays (f :: rest) = .ok () ↔
        fieldFault? names displays f = none ∧
          validateFrom (f.name :: names) (f.display :: displays) rest = .ok () := by
      rw [validateFrom]
      cases fieldFault? names displays f <;> simp
    rw [hstep, fieldFault?_eq_none_iff, ih, forall_notMem_cons_iff, forall_notMem_cons_iff,
      valid_cons_iff, List.forall_mem_cons, List.forall_mem_cons]
    constructor
    · rintro ⟨⟨hown, hname, hdisplay⟩, ⟨hnew, hnames⟩, ⟨hnew', hdisplays⟩, hrest⟩
      exact ⟨⟨hname, hnames⟩, ⟨hdisplay, hdisplays⟩, hown, ⟨hnew, hnew'⟩, hrest⟩
    · rintro ⟨⟨hname, hnames⟩, ⟨hdisplay, hdisplays⟩, hown, ⟨hnew, hnew'⟩, hrest⟩
      exact ⟨⟨hown, hname, hdisplay⟩, ⟨hnew, hnames⟩, ⟨hnew', hdisplays⟩, hrest⟩

/-- A schema passes the check exactly where it keeps the rules. -/
theorem validate_eq_ok_iff {s : Schema} : s.validate = .ok () ↔ s.Valid := by
  rw [validate, validateFrom_eq_ok_iff]
  simp

/-- Under distinct names a field is found under its name. -/
theorem field?_of_mem {s : Schema} (hnodup : s.names.Nodup) {f : Field}
    (hmem : f ∈ s.fields) : s.field? f.name = some f := by
  obtain ⟨fields⟩ := s
  unfold field?
  unfold names at hnodup
  dsimp only at hnodup hmem ⊢
  induction fields with
  | nil => cases hmem
  | cons first rest ih =>
    obtain ⟨hfresh, hrest⟩ := List.nodup_cons.1 hnodup
    rcases List.mem_cons.1 hmem with rfl | hmem
    · simp
    · have hne : first.name ≠ f.name := fun h => hfresh (List.mem_map.2 ⟨f, hmem, h.symm⟩)
      rw [List.find?_cons_of_neg (by simpa using hne)]
      exact ih hrest hmem

/-- Under distinct names the field found under a name is the one that has it. -/
theorem field?_eq_some_iff {s : Schema} (hnodup : s.names.Nodup) {name : String} {f : Field} :
    s.field? name = some f ↔ f ∈ s.fields ∧ f.name = name := by
  constructor
  · intro h
    exact ⟨List.mem_of_find?_eq_some h, by simpa using List.find?_some h⟩
  · rintro ⟨hmem, rfl⟩
    exact field?_of_mem hnodup hmem

/-- No field is found exactly under the names that no field has. -/
theorem field?_eq_none_iff {s : Schema} {name : String} :
    s.field? name = none ↔ name ∉ s.names := by
  simp [field?, names]

end Schema
end LooseRecords
