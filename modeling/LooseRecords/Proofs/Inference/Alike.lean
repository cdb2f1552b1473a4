import LooseRecords.Proofs.Samples

/-!
# Values that inference does not tell apart

The rules for truth values, dates and numbers ask a few questions of each value, and what they infer
depends on which answers come up, not on how often or in which order
(`Inference.ofValues_of_corresponds`).  Where they infer nothing the tokens of the values are looked
at, and of these the first sightings (`Inference.tokens_present`).
-/

namespace LooseRecords
namespace Inference

/-! ### Kinds of values -/

/-- Whether two values are of one kind for the rules that look at truth values, dates and numbers. -/
structure SameKind (raw raw' : Scalar) : Prop where
  isNull : raw.isNull = raw'.isNull
  isBoolean : isBoolean raw = isBoolean raw'
  isDate : isDate raw = isDate raw'
  whole : raw.toNumber?.map (fun x => decide x.IsWhole) =
    raw'.toNumber?.map fun x => decide x.IsWhole

/-- Whether two values are of one kind and have the same token. -/
structure Alike (raw raw' : Scalar) : Prop extends SameKind raw raw' where
  token : raw.toText?.map Token.normalize = raw'.toText?.map Token.normalize

namespace SameKind

variable {raw raw' : Scalar}

protected theorem refl (raw : Scalar) : SameKind raw raw :=
  ⟨rfl, rfl, rfl, rfl⟩

protected theorem symm (h : SameKind raw raw') : SameKind raw' raw :=
  ⟨h.isNull.symm, h.isBoolean.symm, h.isDate.symm, h.whole.symm⟩

theorem exists_number_iff (h : SameKind raw raw') :
    (∃ x, raw.toNumber? = some x) ↔ ∃ x, raw'.toNumber? = some x := by
  have hsome := congrArg Option.isSome h.whole
  rw [Option.isSome_map, Option.isSome_map] at hsome
  rw [← Option.isSome_iff_exists, ← Option.isSome_iff_exists, hsome]

theorem exists_whole_iff (h : SameKind raw raw') :
    (∃ x, raw.toNumber? = some x ∧ x.IsWhole) ↔ ∃ x, raw'.toNumber? = some x ∧ x.IsWhole := by
  have hwhole (raw : Scalar) : (∃ x, raw.toNumber? = some x ∧ x.IsWhole) ↔
      raw.toNumber?.map (fun x => decide x.IsWhole) = some true := by
    simp
  rw [hwhole, hwhole, h.whole]

end SameKind

theorem Alike.refl (raw : Scalar) : Alike raw raw :=
  ⟨.refl raw, rfl⟩

/-! ### Lists of values -/

/-- Whether each value of two lists is related to one of the other list. -/
structure Corresponds (R : Scalar → Scalar → Prop) (values values' : List Scalar) : Prop where
  left : ∀ raw ∈ values, ∃ raw' ∈ values', R raw raw'
  right : ∀ raw' ∈ values', ∃ raw ∈ values, R raw raw'

namespace Corresponds

variable {R : Scalar → Scalar → Prop} {P : Scalar → Prop} {values values' : List Scalar}

/-- Values that are related one by one correspond. -/
theorem of_forall₂ (h : List.Forall₂ R values values') : Corresponds R values values' := by
  induction h with
  | nil => exact ⟨by simp, by simp⟩
  | cons hfirst _ ih =>
    constructor
    · refine List.forall_mem_cons.2 ⟨⟨_, List.mem_cons_self, hfirst⟩, fun raw hraw => ?_⟩
      obtain ⟨raw', hmem, hrelated⟩ := ih.left raw hraw
      exact ⟨raw', List.mem_cons_of_mem _ hmem, hrelated⟩
    · refine List.forall_mem_cons.2 ⟨⟨_, List.mem_cons_self, hfirst⟩, fun raw' hraw' => ?_⟩
      obtain ⟨raw, hmem, hrelated⟩ := ih.right raw' hraw'
      exact ⟨raw, List.mem_cons_of_mem _ hmem, hrelated⟩

theorem mono {S : Scalar → Scalar → Prop} (h : Corresponds R values values')
    (hRS : ∀ raw raw', R raw raw' → S raw raw') : Corresponds S values values' where
  left raw hraw := by
    obtain ⟨raw', hmem, hrelated⟩ := h.left raw hraw
    exact ⟨raw', hmem, hRS raw raw' hrelated⟩
  right raw' hraw' := by
    obtain ⟨raw, hmem, hrelated⟩ := h.right raw' hraw'
    exact ⟨raw, hmem, hRS raw raw' hrelated⟩

protected theorem symm (h : Corresponds SameKind values values') :
    Corresponds SameKind values' values where
  left raw' hraw' := by
    obtain ⟨raw, hmem, hkind⟩ := h.right raw' hraw'
    exact ⟨raw, hmem, hkind.symm⟩
  right raw hraw := by
    obtain ⟨raw', hmem, hkind⟩ := h.left raw hraw
    exact ⟨raw', hmem, hkind.symm⟩

/-- What related values have in common is true of all values of both lists or of neither. -/
theorem forall_iff (h : Corresponds R values values')
    (hP : ∀ raw raw', R raw raw' → (P raw ↔ P raw')) :
    (∀ raw ∈ values, P raw) ↔ ∀ raw ∈ values', P raw := by
  constructor
  · intro hall raw' hraw'
    obtain ⟨raw, hmem, hrelated⟩ := h.right raw' hraw'
    exact (hP raw raw' hrelated).1 (hall raw hmem)
  · intro hall raw hraw
    obtain ⟨raw', hmem, hrelated⟩ := h.left raw hraw
    exact (hP raw raw' hrelated).2 (hall raw' hmem)

theorem exists_iff (h : Corresponds R values values')
    (hP : ∀ raw raw', R raw raw' → (P raw ↔ P raw')) :
    (∃ raw ∈ values, P raw) ↔ ∃ raw ∈ values', P raw := by
  constructor
  · rintro ⟨raw, hraw, hp⟩
    obtain ⟨raw', hmem, hrelated⟩ := h.left raw hraw
    exact ⟨raw', hmem, (hP raw raw' hrelated).1 hp⟩
  · rintro ⟨raw', hraw', hp⟩
    obtain ⟨raw, hmem, hrelated⟩ := h.right raw' hraw'
    exact ⟨raw, hmem, (hP raw raw' hrelated).2 hp⟩

end Corresponds

/-! ### What the kinds decide -/

/-- The inferences that are made without looking at tokens. -/
inductive Settled : Inference → Prop
  | undetermined : Settled undetermined
  | boolean : Settled (typed .boolean)
  | date : Settled (typed .date)
  | integer : Settled (typed .integer)
  | float : Settled (typed .float)

variable {limits : Thresholds} {values values' : List Scalar}

/-- Nothing is inferred exactly where there are only nulls. -/
theorem ofValues_eq_undetermined_iff :
    ofValues limits values = undetermined ↔ ¬∃ raw ∈ values, raw.isNull = false := by
  constructor
  · intro h
    have hshows := shows_ofValues limits values
    rw [h] at hshows
    cases hshows with
    | undetermined hnil => exact present_eq_nil_iff.1 hnil
  · exact fun hnone => if_pos (present_eq_nil_iff.2 hnone)

/-- An inference that is made without looking at tokens is made of all values of these kinds. -/
theorem ofValues_of_settled (h : Corresponds SameKind values values')
    (hsettled : Settled (ofValues limits values)) :
    ofValues limits values' = ofValues limits values := by
  have hnull : ∀ raw raw', SameKind raw raw' → (raw.isNull = false ↔ raw'.isNull = false) :=
    fun _ _ hkind => by rw [hkind.isNull]
  have hpresent := h.exists_iff hnull
  generalize hfound : ofValues limits values = found at hsettled
  cases hsettled with
  | undetermined =>
    rw [ofValues_eq_undetermined_iff] at hfound ⊢
    rwa [← hpresent]
  | boolean =>
    rw [ofValues_eq_boolean_iff] at hfound ⊢
    obtain ⟨hne, hall⟩ := hfound
    obtain ⟨raw, hraw⟩ := List.exists_mem_of_ne_nil values hne
    obtain ⟨raw', hmem, -⟩ := h.left raw hraw
    refine ⟨List.ne_nil_of_mem hmem, (h.forall_iff fun raw raw' hkind => ?_).1 hall⟩
    rw [hkind.isBoolean]
  | date =>
    rw [ofValues_eq_date_iff] at hfound ⊢
    refine ⟨hpresent.1 hfound.1, (h.forall_iff fun raw raw' hkind => ?_).1 hfound.2⟩
    rw [hkind.isNull, hkind.isDate]
  | integer =>
    rw [ofValues_eq_integer_iff] at hfound ⊢
    refine ⟨hpresent.1 hfound.1, (h.forall_iff fun raw raw' hkind => ?_).1 hfound.2⟩
    rw [hkind.isNull, hkind.exists_whole_iff]
  | float =>
    obtain ⟨hexists, hall⟩ := ofValues_eq_integer_or_float_iff.1 (.inr hfound)
    have hnumbers : ofValues limits values' = typed .integer ∨
        ofValues limits values' = typed .float := by
      refine ofValues_eq_integer_or_float_iff.2
        ⟨hpresent.1 hexists, (h.forall_iff fun raw raw' hkind => ?_).1 hall⟩
      rw [hkind.isNull, hkind.exists_number_iff]
    refine hnumbers.resolve_left fun hinteger => ?_
    -- Integers would have been inferred from both.
    rw [ofValues_eq_integer_iff, ← hpresent, ← h.forall_iff fun raw raw' hkind => ?_] at hinteger
    · rw [ofValues_eq_integer_iff.2 hinteger] at hfound
      cases hfound
    · rw [hkind.isNull, hkind.exists_whole_iff]

/-- Where the inference is not settled by the kinds of values it is a category or text. -/
theorem settled_or_eq_category (limits : Thresholds) (values : List Scalar) :
    Settled (ofValues limits values) ∨ ofValues limits values =
      (category? limits (values.filter (!·.isNull))).getD (typed .text) := by
  unfold ofValues
  dsimp only
  generalize values.filter (!·.isNull) = present
  by_cases hpresent : present = []
  · rw [if_pos hpresent]
    exact .inl .undetermined
  rw [if_neg hpresent]
  cases hboolean : boolean? present (decide (present.length < values.length)) with
  | some found =>
    obtain ⟨-, rfl⟩ := boolean?_eq_some_iff.1 hboolean
    exact .inl .boolean
  | none =>
  cases hdate : date? present with
  | some found =>
    obtain ⟨-, rfl⟩ := date?_eq_some_iff.1 hdate
    exact .inl .date
  | none =>
  cases hnumeric : numeric? present with
  | some found =>
    obtain ⟨-, rfl⟩ := numeric?_eq_some_iff.1 hnumeric
    left
    show Settled (if _ then _ else _)
    split
    · exact .integer
    · exact .float
  | none => exact .inr rfl

/-- A category or text is not numeric. -/
theorem type_category (limits : Thresholds) (present : List Scalar) :
    ((category? limits present).getD (typed .text)).type = .option ∨
      ((category? limits present).getD (typed .text)).type = .text := by
  unfold category?
  dsimp only
  split
  · exact .inl rfl
  · exact .inr rfl

/-- From values of the same kinds the same is inferred, or tokens decide in both cases. -/
theorem ofValues_of_corresponds (limits : Thresholds) (h : Corresponds SameKind values values') :
    ofValues limits values' = ofValues limits values ∨
      (ofValues limits values =
          (category? limits (values.filter (!·.isNull))).getD (typed .text) ∧
        ofValues limits values' =
          (category? limits (values'.filter (!·.isNull))).getD (typed .text)) := by
  rcases settled_or_eq_category limits values with hsettled | hrest
  · exact .inl (ofValues_of_settled h hsettled)
  · rcases settled_or_eq_category limits values' with hsettled' | hrest'
    · exact .inl (ofValues_of_settled h.symm hsettled').symm
    · exact .inr ⟨hrest, hrest'⟩

/-! ### Tokens -/

/-- The tokens of all values that have one, in their order. -/
def allTokens (values : List Scalar) : List String :=
  values.filterMap fun value => value.toText?.map Token.normalize

/-- The distinct tokens of the values other than null are the first sightings among the tokens of all
values, as null has no token. -/
theorem tokens_present (values : List Scalar) :
    tokens (values.filter (!·.isNull)) = (allTokens values).eraseDups := by
  rw [tokens, distinct_eq_eraseDups, List.filterMap_filter, allTokens]
  congr 2
  funext value
  cases value <;> rfl

end Inference
end LooseRecords
