import LooseRecords.Proofs.Inference
import LooseRecords.Proofs.Readings
import LooseRecords.Proofs.Schema.Sightings

/-!
# What is inferred from a part of the values

The rules for truth values, dates and numbers are tried one after the other, but no value is accepted
by two of them.  So each of these types can be told from the values alone, without the order of the
rules: it is inferred exactly where there is a value other than null and all such values are of the
kind (`Inference.ofValues_eq_date_iff` and its likes; truth values suffer no null beside them).  These
are conditions on each single value, and they stay when values are left out: what part of the values
shows is of the type that all of them show, but for whole numbers that stood beside fractions.
-/

namespace LooseRecords
namespace Inference

/-! ### No value is of two kinds -/

section Kinds

variable {raw : Scalar} {x : Finite64}

theorem not_isDate_of_isBoolean (h : isBoolean raw = true) : ¬isDate raw = true := by
  cases raw with
  | text s =>
    have hword : (Token.boolLiteral? s).isSome = true := h
    obtain ⟨b, hb⟩ := Option.isSome_iff_exists.1 hword
    rw [isDate, Instant.ofText?_eq_none_of_boolLiteral? hb]
    exact Bool.false_ne_true
  | _ => exact Bool.false_ne_true

theorem not_isDate_of_toNumber? (h : raw.toNumber? = some x) : ¬isDate raw = true := by
  cases raw with
  | text s =>
    have hnumber : Scalar.numberOfText? s = some x := h
    rw [isDate, Instant.ofText?_eq_none_of_number hnumber]
    exact Bool.false_ne_true
  | _ => exact Bool.false_ne_true

theorem not_isBoolean_of_toNumber? (h : raw.toNumber? = some x) : ¬isBoolean raw = true := by
  cases raw with
  | text s =>
    intro hboolean
    have hword : (Token.boolLiteral? s).isSome = true := hboolean
    obtain ⟨b, hb⟩ := Option.isSome_iff_exists.1 hword
    have hnumber : Scalar.numberOfText? s = some x := h
    rw [Scalar.numberOfText?_eq_none_of_boolLiteral? hb] at hnumber
    cases hnumber
  | bool b => cases h
  | _ => exact Bool.false_ne_true

end Kinds

/-! ### Values other than null -/

variable {limits : Thresholds} {values : List Scalar}

theorem mem_present {raw : Scalar} :
    raw ∈ values.filter (!·.isNull) ↔ raw ∈ values ∧ raw.isNull = false := by
  rw [List.mem_filter, Bool.not_eq_true']

theorem present_eq_nil_iff :
    values.filter (!·.isNull) = [] ↔ ¬∃ raw ∈ values, raw.isNull = false := by
  rw [List.eq_nil_iff_forall_not_mem]
  simp only [mem_present, not_exists]

/-- Nothing is inferred from nulls. -/
theorem exists_of_ofValues_eq_typed {type : FieldType} (h : ofValues limits values = typed type) :
    ∃ raw ∈ values, raw.isNull = false := by
  by_contra hnone
  have hfound : ofValues limits values = undetermined := if_pos (present_eq_nil_iff.2 hnone)
  rw [h] at hfound
  cases hfound

/-! ### The types by their values -/

/-- Truth values are inferred exactly where all values are such and there is one. -/
theorem ofValues_eq_boolean_iff : ofValues limits values = typed .boolean ↔
    values ≠ [] ∧ ∀ raw ∈ values, isBoolean raw = true := by
  constructor
  · intro h
    obtain ⟨raw, hmem, -⟩ := exists_of_ofValues_eq_typed h
    have hshows := shows_ofValues limits values
    rw [h] at hshows
    cases hshows with
    | boolean hlength hall =>
      -- No null was left out.
      have hnulls : values.filter (!·.isNull) = values :=
        List.filter_sublist.eq_of_length_le hlength
      rw [hnulls] at hall
      exact ⟨List.ne_nil_of_mem hmem, hall⟩
  · rintro ⟨hne, hall⟩
    obtain ⟨raw, hmem⟩ := List.exists_mem_of_ne_nil values hne
    have hnulls : values.filter (!·.isNull) = values := by
      rw [List.filter_eq_self]
      intro raw hraw
      cases raw with
      | null => cases hall _ hraw
      | _ => rfl
    have hshows := shows_ofValues limits values
    rw [hnulls] at hshows
    generalize ofValues limits values = found at hshows ⊢
    cases hshows with
    | undetermined hnil => exact absurd hnil hne
    | boolean => rfl
    | date hdates => exact absurd (hdates raw hmem) (not_isDate_of_isBoolean (hall raw hmem))
    | integer hnumbers =>
      obtain ⟨x, hx, -⟩ := hnumbers raw hmem
      exact absurd (hall raw hmem) (not_isBoolean_of_toNumber? hx)
    | float hnumbers =>
      obtain ⟨x, hx⟩ := hnumbers raw hmem
      exact absurd (hall raw hmem) (not_isBoolean_of_toNumber? hx)
    | options hkind => exact absurd ⟨Nat.le_refl _, hall⟩ hkind.notBoolean
    | text hkind => exact absurd ⟨Nat.le_refl _, hall⟩ hkind.notBoolean

/-- Dates are inferred exactly where all values other than null are such and there is one. -/
theorem ofValues_eq_date_iff : ofValues limits values = typed .date ↔
    (∃ raw ∈ values, raw.isNull = false) ∧
      ∀ raw ∈ values, raw.isNull = false → isDate raw = true := by
  constructor
  · intro h
    refine ⟨exists_of_ofValues_eq_typed h, fun raw hmem hnull => ?_⟩
    have haccepts := accepts_ofValues limits hmem hnull
    rw [h] at haccepts
    exact haccepts
  · rintro ⟨⟨raw, hmem, hnull⟩, hall⟩
    have hraw := mem_present.2 ⟨hmem, hnull⟩
    have hpresent : ∀ raw ∈ values.filter (!·.isNull), isDate raw = true := by
      intro raw hraw
      obtain ⟨hmem, hnull⟩ := mem_present.1 hraw
      exact hall raw hmem hnull
    have hshows := shows_ofValues limits values
    generalize ofValues limits values = found at hshows ⊢
    cases hshows with
    | undetermined hnil => exact absurd hnil (List.ne_nil_of_mem hraw)
    | boolean _ hbooleans =>
      exact absurd (hpresent raw hraw) (not_isDate_of_isBoolean (hbooleans raw hraw))
    | date => rfl
    | integer hnumbers =>
      obtain ⟨x, hx, -⟩ := hnumbers raw hraw
      exact absurd (hpresent raw hraw) (not_isDate_of_toNumber? hx)
    | float hnumbers =>
      obtain ⟨x, hx⟩ := hnumbers raw hraw
      exact absurd (hpresent raw hraw) (not_isDate_of_toNumber? hx)
    | options hkind => exact absurd hpresent hkind.notDate
    | text hkind => exact absurd hpresent hkind.notDate

/-- Where all values other than null are numbers and there is one, they are inferred to be integers,
or one of them is no whole number. -/
theorem cases_of_forall_number (limits : Thresholds)
    (hexists : ∃ raw ∈ values, raw.isNull = false)
    (hall : ∀ raw ∈ values, raw.isNull = false → ∃ x, raw.toNumber? = some x) :
    ofValues limits values = typed .integer ∨
      (ofValues limits values = typed .float ∧
        ∃ raw ∈ values, raw.isNull = false ∧ ∃ x, raw.toNumber? = some x ∧ ¬x.IsWhole) := by
  obtain ⟨raw, hmem, hnull⟩ := hexists
  obtain ⟨x, hx⟩ := hall raw hmem hnull
  have hraw := mem_present.2 ⟨hmem, hnull⟩
  have hpresent : ∀ raw ∈ values.filter (!·.isNull), ∃ x, raw.toNumber? = some x := by
    intro raw hraw
    obtain ⟨hmem, hnull⟩ := mem_present.1 hraw
    exact hall raw hmem hnull
  have hshows := shows_ofValues limits values
  generalize ofValues limits values = found at hshows ⊢
  cases hshows with
  | undetermined hnil => exact absurd hnil (List.ne_nil_of_mem hraw)
  | boolean _ hbooleans =>
    exact absurd (hbooleans raw hraw) (not_isBoolean_of_toNumber? hx)
  | date hdates => exact absurd (hdates raw hraw) (not_isDate_of_toNumber? hx)
  | integer => exact .inl rfl
  | float _ hfraction =>
    obtain ⟨other, hother, y, hy, hnot⟩ := hfraction
    obtain ⟨hmem, hnull⟩ := mem_present.1 hother
    exact .inr ⟨rfl, other, hmem, hnull, y, hy, hnot⟩
  | options hkind => exact absurd hpresent hkind.notNumber
  | text hkind => exact absurd hpresent hkind.notNumber

/-- Numbers are inferred exactly where all values other than null are such and there is one. -/
theorem ofValues_eq_integer_or_float_iff :
    ofValues limits values = typed .integer ∨ ofValues limits values = typed .float ↔
      (∃ raw ∈ values, raw.isNull = false) ∧
        ∀ raw ∈ values, raw.isNull = false → ∃ x, raw.toNumber? = some x := by
  constructor
  · intro h
    refine ⟨h.elim exists_of_ofValues_eq_typed exists_of_ofValues_eq_typed, ?_⟩
    intro raw hmem hnull
    have haccepts := accepts_ofValues limits hmem hnull
    rcases h with h | h
    · rw [h] at haccepts
      obtain ⟨x, hx, -⟩ := haccepts
      exact ⟨x, hx⟩
    · rw [h] at haccepts
      exact haccepts
  · rintro ⟨hexists, hall⟩
    rcases cases_of_forall_number limits hexists hall with hinteger | ⟨hfloat, -⟩
    · exact .inl hinteger
    · exact .inr hfloat

/-- Integers are inferred exactly where all values other than null are whole numbers and there is
one. -/
theorem ofValues_eq_integer_iff : ofValues limits values = typed .integer ↔
    (∃ raw ∈ values, raw.isNull = false) ∧
      ∀ raw ∈ values, raw.isNull = false → ∃ x, raw.toNumber? = some x ∧ x.IsWhole := by
  constructor
  · intro h
    refine ⟨exists_of_ofValues_eq_typed h, fun raw hmem hnull => ?_⟩
    have haccepts := accepts_ofValues limits hmem hnull
    rw [h] at haccepts
    exact haccepts
  · rintro ⟨hexists, hall⟩
    have hnumber : ∀ raw ∈ values, raw.isNull = false → ∃ x, raw.toNumber? = some x := by
      intro raw hmem hnull
      obtain ⟨x, hx, -⟩ := hall raw hmem hnull
      exact ⟨x, hx⟩
    rcases cases_of_forall_number limits hexists hnumber with hinteger | ⟨-, hfraction⟩
    · exact hinteger
    · obtain ⟨raw, hmem, hnull, x, hx, hnot⟩ := hfraction
      obtain ⟨y, hy, hwhole⟩ := hall raw hmem hnull
      rw [hx] at hy
      cases hy
      exact absurd hwhole hnot

/-! ### Leaving values out

A part of the values is any list of some of them, in whatever order.  It needs a value other than
null, as nothing is inferred from nulls. -/

variable {part whole : List Scalar}

theorem boolean_of_subset (hsub : part ⊆ whole) (hpart : ∃ raw ∈ part, raw.isNull = false)
    (h : ofValues limits whole = typed .boolean) : ofValues limits part = typed .boolean := by
  obtain ⟨raw, hmem, -⟩ := hpart
  have hall := (ofValues_eq_boolean_iff.1 h).2
  exact ofValues_eq_boolean_iff.2
    ⟨List.ne_nil_of_mem hmem, fun raw hraw => hall raw (hsub hraw)⟩

theorem date_of_subset (hsub : part ⊆ whole) (hpart : ∃ raw ∈ part, raw.isNull = false)
    (h : ofValues limits whole = typed .date) : ofValues limits part = typed .date := by
  have hall := (ofValues_eq_date_iff.1 h).2
  exact ofValues_eq_date_iff.2 ⟨hpart, fun raw hraw => hall raw (hsub hraw)⟩

theorem integer_of_subset (hsub : part ⊆ whole) (hpart : ∃ raw ∈ part, raw.isNull = false)
    (h : ofValues limits whole = typed .integer) : ofValues limits part = typed .integer := by
  have hall := (ofValues_eq_integer_iff.1 h).2
  exact ofValues_eq_integer_iff.2 ⟨hpart, fun raw hraw => hall raw (hsub hraw)⟩

theorem number_of_subset (hsub : part ⊆ whole) (hpart : ∃ raw ∈ part, raw.isNull = false)
    (h : ofValues limits whole = typed .integer ∨ ofValues limits whole = typed .float) :
    ofValues limits part = typed .integer ∨ ofValues limits part = typed .float := by
  have hall := (ofValues_eq_integer_or_float_iff.1 h).2
  exact ofValues_eq_integer_or_float_iff.2 ⟨hpart, fun raw hraw => hall raw (hsub hraw)⟩

/-- Values come to be of another type by more values only as integers come to be fractions, or as
they come to be of no kind that all of them share. -/
theorem type_of_subset (limits : Thresholds) (hsub : part ⊆ whole)
    (hpart : ∃ raw ∈ part, raw.isNull = false) :
    (ofValues limits whole).type = (ofValues limits part).type ∨
      ((ofValues limits part).type = .integer ∧ (ofValues limits whole).type = .float) ∨
      (ofValues limits whole).type = .text ∨ (ofValues limits whole).type = .option := by
  cases hwhole : ofValues limits whole with
  | undetermined => exact .inr (.inr (.inl rfl))
  | options tokens => exact .inr (.inr (.inr rfl))
  | typed type =>
    cases type with
    | text => exact .inr (.inr (.inl rfl))
    | option => exact .inr (.inr (.inr rfl))
    | boolean => exact .inl (by rw [boolean_of_subset hsub hpart hwhole])
    | date => exact .inl (by rw [date_of_subset hsub hpart hwhole])
    | integer => exact .inl (by rw [integer_of_subset hsub hpart hwhole])
    | float =>
      rcases number_of_subset hsub hpart (.inr hwhole) with hinteger | hfloat
      · exact .inr (.inl ⟨by rw [hinteger]; rfl, rfl⟩)
      · exact .inl (by rw [hfloat])

end Inference

/-! ### Leaving records out -/

/-- The values that some of the records have under a display name are among those of all records. -/
theorem filterMap_get?_subset {part whole : List RawRecord} (hsub : part ⊆ whole)
    (display : String) :
    part.filterMap (·.get? display) ⊆ whole.filterMap (·.get? display) := by
  intro raw hraw
  obtain ⟨r, hr, hget⟩ := List.mem_filterMap.1 hraw
  exact List.mem_filterMap.2 ⟨r, hsub hr, hget⟩

/-- A display name that comes up in the records has a field in the schema inferred from them. -/
theorem Schema.exists_field_of_get? (limits : Thresholds) {records : List RawRecord}
    {r : RawRecord} (hr : r ∈ records) {display : String} {raw : Scalar}
    (hget : r.get? display = some raw) :
    ∃ f ∈ (infer limits records).fields, f.display = display := by
  have hseen : display ∈ sightings records := mem_sightings.2 ⟨r, hr, by rw [hget]; rfl⟩
  have hdisplay : display ∈ (infer limits records).fields.map (·.display) := by
    rw [map_display_infer, List.mem_eraseDups]
    exact hseen
  exact List.mem_map.1 hdisplay

/-- What part of the values shows, if there is a value other than null in it, is of the type that
all of them show, where these are truth values, dates or integers; where they are fractions it is
integers or fractions.  So it is with the schema inferred from some of the records: a field with a
value there is a field of the schema of all records, and of the same type, or of fractions instead
of integers; or else the latter field is of none of these types. -/
theorem Schema.subset_keeps_types (limits : Thresholds) :
    (∀ part whole : List Scalar, part ⊆ whole → (∃ raw ∈ part, raw.isNull = false) →
      let found := Inference.ofValues limits part
      let all := Inference.ofValues limits whole
      (all = .typed .boolean → found = .typed .boolean) ∧
        (all = .typed .date → found = .typed .date) ∧
        (all = .typed .integer → found = .typed .integer) ∧
        (all = .typed .float → found = .typed .integer ∨ found = .typed .float)) ∧
      ∀ part whole : List RawRecord, part ⊆ whole → ∀ f ∈ (infer limits part).fields,
        (∃ r ∈ part, ∃ raw, r.get? f.display = some raw ∧ raw.isNull = false) →
        ∃ g ∈ (infer limits whole).fields, g.display = f.display ∧
          (g.type = f.type ∨ (f.type = .integer ∧ g.type = .float) ∨
            g.type = .text ∨ g.type = .option) := by
  constructor
  · intro part whole hsub hpart found all
    exact ⟨Inference.boolean_of_subset hsub hpart, Inference.date_of_subset hsub hpart,
      Inference.integer_of_subset hsub hpart,
      fun h => Inference.number_of_subset hsub hpart (.inr h)⟩
  · intro part whole hsub f hf hvalue
    obtain ⟨r, hr, raw, hget, hnull⟩ := hvalue
    obtain ⟨g, hg, hdisplay⟩ := exists_field_of_get? limits (hsub hr) hget
    have hpart : ∃ raw ∈ part.filterMap (·.get? f.display), raw.isNull = false :=
      ⟨raw, List.mem_filterMap.2 ⟨r, hr, hget⟩, hnull⟩
    have htypes :=
      Inference.type_of_subset limits (filterMap_get?_subset hsub f.display) hpart
    have hgtype := (inference_of_mem_infer hg).1
    rw [hdisplay] at hgtype
    refine ⟨g, hg, hdisplay, ?_⟩
    rw [hgtype, (inference_of_mem_infer hf).1]
    exact htypes

/-- A fraction is left out of numbers that are written in several ways, and a text that is no date
is left out of records that have dates beside it. -/
theorem Schema.subset_keeps_types_samples :
    let numbers : List Scalar := [.text "0x10", .null, .text " 2.5 ", .text "-7e1"]
    let part : List Scalar := [.null, .text "-7e1", .text "0x10"]
    let dates := [RawRecord.ofJson (.object [("When", .null)]),
      RawRecord.ofJson (.object [("When", .string "2023-10-05")])]
    let records := RawRecord.ofJson (.object [("When", .string "today")]) :: dates
    let f : Field := ⟨"When", "when", .date, []⟩
    (part ⊆ numbers ∧ (∃ raw ∈ part, raw.isNull = false) ∧
        Inference.ofValues {} numbers = .typed .float ∧
        (Inference.ofValues {} part = .typed .integer ∨
          Inference.ofValues {} part = .typed .float)) ∧
      dates ⊆ records ∧ f ∈ (infer {} dates).fields ∧
      (∃ r ∈ dates, ∃ raw, r.get? f.display = some raw ∧ raw.isNull = false) ∧
      ∃ g ∈ (infer {} records).fields, g.display = "When" ∧ g.type ≠ .integer := by
  intro numbers part dates records f
  obtain ⟨hvalues, hrecords⟩ := subset_keeps_types {}
  have hpart : part ⊆ numbers := by decide +kernel
  have hnumber : ∃ raw ∈ part, raw.isNull = false := ⟨.text "-7e1", by simp [part], rfl⟩
  have hfloat : Inference.ofValues {} numbers = .typed .float := by decide +kernel
  have hdates : dates ⊆ records := List.subset_cons_self _ _
  have hf : f ∈ (infer {} dates).fields := by decide +kernel
  have hdate : ∃ r ∈ dates, ∃ raw, r.get? f.display = some raw ∧ raw.isNull = false :=
    ⟨_, List.mem_cons_of_mem _ List.mem_cons_self, _, rfl, rfl⟩
  obtain ⟨-, -, -, hkept⟩ := hvalues part numbers hpart hnumber
  obtain ⟨g, hg, hdisplay, htype⟩ := hrecords dates records hdates f hf hdate
  refine ⟨⟨hpart, hnumber, hfloat, hkept hfloat⟩, hdates, hf, hdate, g, hg, hdisplay, ?_⟩
  intro hinteger
  rw [hinteger] at htype
  simp [f] at htype

end LooseRecords
