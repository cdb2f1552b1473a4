import LooseRecords.Proofs.Schema.Validity
import LooseRecords.Proofs.Text.Blank

/-!
# The field to blame

Where a schema breaks rules, the check blames one field for one of them.  It is the first field that
breaks a rule with the fields before it, and of the rules that this field breaks the one that comes
first (`Schema.Blames`).  The check itself knows nothing of places: it goes on with the names and
the display names it has met, and these are at every field those of the fields before it.
-/

namespace LooseRecords
namespace Schema

/-- The fault of a field with the fields before it.  Of several that it has the first one counts:
its name is blank, a field before has its name, a field before has its display name, or it lists
options though it is of another type than `option`. -/
inductive Blames (before : List Field) (f : Field) : SchemaFault → Prop
  | emptyName (hblank : Text.trim f.name = "") : Blames before f (.emptyName f.display)
  | duplicateName (hname : Text.trim f.name ≠ "") (hmet : ∃ g ∈ before, g.name = f.name) :
      Blames before f (.duplicateName f.name)
  | duplicateDisplay (hname : Text.trim f.name ≠ "") (hnew : ∀ g ∈ before, g.name ≠ f.name)
      (hmet : ∃ g ∈ before, g.display = f.display) : Blames before f (.duplicateDisplay f.display)
  | misplacedOptions (hname : Text.trim f.name ≠ "") (hnew : ∀ g ∈ before, g.name ≠ f.name)
      (hdisplay : ∀ g ∈ before, g.display ≠ f.display) (htype : f.type ≠ .option)
      (hoptions : f.options ≠ []) : Blames before f (.misplacedOptions f.name f.type)

variable {before rest : List Field} {f : Field} {fault : SchemaFault}

/-! ### One field -/

/-- The names and the display names that were met are those of the fields before. -/
structure Met (before : List Field) (names displays : List String) : Prop where
  mem_names_iff : ∀ name, name ∈ names ↔ ∃ g ∈ before, g.name = name
  mem_displays_iff : ∀ display, display ∈ displays ↔ ∃ g ∈ before, g.display = display

theorem met_nil : Met [] [] [] := by
  constructor <;> simp

/-- A field that is passed is one of the fields before those that follow. -/
theorem Met.concat {names displays : List String} (h : Met before names displays) (f : Field) :
    Met (before ++ [f]) (f.name :: names) (f.display :: displays) where
  mem_names_iff name := by
    rw [List.mem_cons, h.mem_names_iff]
    simp [or_and_right, exists_or, or_comm, eq_comm]
  mem_displays_iff display := by
    rw [List.mem_cons, h.mem_displays_iff]
    simp [or_and_right, exists_or, or_comm, eq_comm]

/-- The check of one field finds the fault that the field is to blame for. -/
theorem fieldFault?_eq_some_iff {names displays : List String} (h : Met before names displays) :
    fieldFault? names displays f = some fault ↔ Blames before f fault := by
  have hblank : Text.isBlankText f.name = true ↔ Text.trim f.name = "" := Text.isBlankText_iff_trim
  have hname := h.mem_names_iff f.name
  have hdisplay := h.mem_displays_iff f.display
  unfold fieldFault?
  constructor
  -- The tests come in the order of the rules, so at each test those before have failed.
  · intro hfault
    split at hfault
    · next hempty =>
      cases hfault
      exact .emptyName (hblank.1 hempty)
    next hnamed =>
    split at hfault
    · next hmet =>
      cases hfault
      exact .duplicateName (hnamed ∘ hblank.2) (hname.1 hmet)
    next hnew =>
    have hnew : ∀ g ∈ before, g.name ≠ f.name := fun g hg heq => hnew (hname.2 ⟨g, hg, heq⟩)
    split at hfault
    · next hmet =>
      cases hfault
      exact .duplicateDisplay (hnamed ∘ hblank.2) hnew (hdisplay.1 hmet)
    next hshown =>
    have hshown : ∀ g ∈ before, g.display ≠ f.display :=
      fun g hg heq => hshown (hdisplay.2 ⟨g, hg, heq⟩)
    split at hfault
    · next hoptions =>
      cases hfault
      exact .misplacedOptions (hnamed ∘ hblank.2) hnew hshown hoptions.1 hoptions.2
    · cases hfault
  · intro hblames
    have hnot {P : Field → Prop} (hall : ∀ g ∈ before, ¬P g) : ¬∃ g ∈ before, P g :=
      fun ⟨g, hg, hp⟩ => hall g hg hp
    cases hblames with
    | emptyName hempty => rw [if_pos (hblank.2 hempty)]
    | duplicateName hnamed hmet => rw [if_neg (hnamed ∘ hblank.1), if_pos (hname.2 hmet)]
    | duplicateDisplay hnamed hnew hmet =>
      rw [if_neg (hnamed ∘ hblank.1), if_neg (hnot hnew ∘ hname.1), if_pos (hdisplay.2 hmet)]
    | misplacedOptions hnamed hnew hshown htype hoptions =>
      rw [if_neg (hnamed ∘ hblank.1), if_neg (hnot hnew ∘ hname.1),
        if_neg (hnot hshown ∘ hdisplay.1), if_pos ⟨htype, hoptions⟩]

/-! ### The first field -/

/-- Whether a fault is that of the first field that has one, where some fields stand before. -/
def BlamesFirst (before fields : List Field) (fault : SchemaFault) : Prop :=
  ∃ i f, fields[i]? = some f ∧ Blames (before ++ fields.take i) f fault ∧
    ∀ j < i, ∀ g, fields[j]? = some g → ∀ other, ¬Blames (before ++ fields.take j) g other

/-- The first field is to blame, or it is not and the first one that is comes later. -/
theorem blamesFirst_cons_iff : BlamesFirst before (f :: rest) fault ↔
    Blames before f fault ∨
      (∀ other, ¬Blames before f other) ∧ BlamesFirst (before ++ [f]) rest fault := by
  have hcons (i : Nat) : before ++ (f :: rest).take (i + 1) = before ++ [f] ++ rest.take i := by
    rw [List.take_succ_cons, List.append_cons]
  constructor
  · rintro ⟨i, g, hg, hblames, hfirst⟩
    cases i with
    | zero =>
      obtain rfl : f = g := Option.some.inj hg
      rw [List.take_zero, List.append_nil] at hblames
      exact .inl hblames
    | succ i =>
      right
      refine ⟨?_, i, g, hg, hcons i ▸ hblames, fun j hj g' hg' => ?_⟩
      · have hzero := hfirst 0 (Nat.succ_pos i) f rfl
        rwa [List.take_zero, List.append_nil] at hzero
      · rw [← hcons]
        exact hfirst (j + 1) (Nat.succ_lt_succ hj) g' hg'
  · rintro (hblames | ⟨hfirst, i, g, hg, hblames, hbefore⟩)
    · refine ⟨0, f, rfl, ?_, fun j hj => absurd hj (Nat.not_lt_zero j)⟩
      rwa [List.take_zero, List.append_nil]
    · refine ⟨i + 1, g, hg, hcons i ▸ hblames, fun j hj g' hg' => ?_⟩
      cases j with
      | zero =>
        obtain rfl : f = g' := Option.some.inj hg'
        rwa [List.take_zero, List.append_nil]
      | succ j =>
        rw [hcons]
        exact hbefore j (Nat.lt_of_succ_lt_succ hj) g' hg'

/-- The check fails with the fault of the first field that has one. -/
theorem validateFrom_eq_error_iff {names displays : List String} {fields : List Field}
    (h : Met before names displays) :
    validateFrom names displays fields = .error fault ↔ BlamesFirst before fields fault := by
  -- The induction is on the fields that are left.  What was met goes with the fields before them.
  induction fields generalizing before names displays with
  | nil =>
    refine iff_of_false (fun hok => by cases hok) ?_
    rintro ⟨i, f, hf, -⟩
    cases hf
  | cons f rest ih =>
    have hfault {fault : SchemaFault} :
        fieldFault? names displays f = some fault ↔ Blames before f fault :=
      fieldFault?_eq_some_iff h
    rw [validateFrom, blamesFirst_cons_iff, ← ih (h.concat f), ← hfault]
    cases hfound : fieldFault? names displays f with
    | some found =>
      -- A field with a fault ends the check, and it excludes that a later one comes first.
      have hblames := hfault.1 hfound
      simp only [Except.error.injEq, Option.some.injEq]
      exact ⟨.inl, fun hor => hor.resolve_right fun hnone => hnone.1 found hblames⟩
    | none =>
      have hnone : ∀ other, ¬Blames before f other := by
        intro other hblames
        rw [hfault.2 hblames] at hfound
        cases hfound
      simp [hnone]

/-! ### Schemas -/

/-- The rules know no order of fields. -/
theorem Valid.of_perm {s s' : Schema} (hperm : s.fields.Perm s'.fields) (h : s.Valid) :
    s'.Valid where
  name_not_blank f hf := h.name_not_blank f (hperm.mem_iff.2 hf)
  nodup_names := (hperm.map _).nodup_iff.1 h.nodup_names
  nodup_displays := (hperm.map _).nodup_iff.1 h.nodup_displays
  options_eq_nil f hf := h.options_eq_nil f (hperm.mem_iff.2 hf)

/-- The check passes the schemas that are well formed: no name is blank, names and display names are
distinct, and only fields of type `option` list options.  So the order of the fields makes no
difference to whether it passes.  In every other schema it blames the first field that breaks a rule
with the fields before it, for the first rule that this field breaks. -/
theorem validate_blames_first (s : Schema) :
    (s.validate = .ok () ↔ (∀ f ∈ s.fields, Text.trim f.name ≠ "") ∧
      (s.fields.map (·.name)).Nodup ∧ (s.fields.map (·.display)).Nodup ∧
      ∀ f ∈ s.fields, f.type ≠ .option → f.options = []) ∧
    (∀ fault, s.validate = .error fault ↔
      ∃ i f, s.fields[i]? = some f ∧ Blames (s.fields.take i) f fault ∧
        ∀ j < i, ∀ g, s.fields[j]? = some g → ∀ other, ¬Blames (s.fields.take j) g other) ∧
    ∀ s' : Schema, s'.fields.Perm s.fields → (s'.validate = .ok () ↔ s.validate = .ok ()) := by
  refine ⟨?_, ?_, ?_⟩
  · have hblank (f : Field) : Text.trim f.name ≠ "" ↔ Text.isBlankText f.name = false := by
      rw [Ne, ← Text.isBlankText_iff_trim, Bool.not_eq_true]
    simp only [hblank]
    rw [validate_eq_ok_iff]
    exact ⟨fun h => ⟨h.name_not_blank, h.nodup_names, h.nodup_displays, h.options_eq_nil⟩,
      fun ⟨hname, hnames, hdisplays, hoptions⟩ => ⟨hname, hnames, hdisplays, hoptions⟩⟩
  · intro fault
    exact validateFrom_eq_error_iff met_nil
  · intro s' hperm
    rw [validate_eq_ok_iff, validate_eq_ok_iff]
    exact ⟨Valid.of_perm hperm, Valid.of_perm hperm.symm⟩

/-- The third field breaks three rules and the last one a rule that comes before them.  In the one
order the third is blamed, for the first rule that it breaks, in the other order the last. -/
theorem validate_blames_first_reordered :
    let s : Schema := ⟨[⟨"Size", "size", .option, ["s", "m"]⟩, ⟨"Width", "width", .float, []⟩,
      ⟨"Size", "size", .integer, ["1"]⟩, ⟨"Note", " \t", .text, []⟩]⟩
    let s' : Schema := ⟨s.fields.reverse⟩
    s'.fields.Perm s.fields ∧ (s'.validate = .ok () ↔ s.validate = .ok ()) ∧
      s'.validate = .error (.emptyName "Note") ∧ s.validate = .error (.duplicateName "size") ∧
      ∃ i f, s.fields[i]? = some f ∧ Blames (s.fields.take i) f (.duplicateName "size") := by
  intro s s'
  obtain ⟨-, hblames, horder⟩ := validate_blames_first s
  have hperm : s'.fields.Perm s.fields := List.reverse_perm s.fields
  have hfault : s.validate = .error (.duplicateName "size") := by decide +kernel
  obtain ⟨i, f, hf, hfirst, -⟩ := (hblames _).1 hfault
  exact ⟨hperm, horder s' hperm, by decide +kernel, hfault, i, f, hf, hfirst⟩

end Schema
end LooseRecords
