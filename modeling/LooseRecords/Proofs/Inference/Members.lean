import LooseRecords.Proofs.Inference.Alike
import LooseRecords.Proofs.Number.Layout
import LooseRecords.Proofs.Number.Order

/-!
# Inference looks at members only

What is inferred from values is a matter of which values there are.  Neither their order nor how often
one of them comes up makes a difference, but for the order in which options are listed, and neither
does the sign of a zero (`Inference.agrees_of_same_members`).
-/

namespace LooseRecords

/-! ### Equal values -/

/-- Whether two values are equal; the two zeros are. -/
def Scalar.SameValue (raw raw' : Scalar) : Prop :=
  raw = raw' ∨ ∃ x y, raw = .number x ∧ raw' = .number y ∧ x.Equals y

/-- Equal finite numbers are the same number or zeros. -/
theorem Finite64.eq_or_units_eq_zero {x y : Finite64} (h : x.signedUnits = y.signedUnits) :
    x = y ∨ x.units = 0 ∧ y.units = 0 := by
  have hunits : x.units = y.units := by rw [← x.natAbs_signedUnits, ← y.natAbs_signedUnits, h]
  by_cases hzero : x.units = 0
  · exact .inr ⟨hzero, hunits ▸ hzero⟩
  · left
    obtain ⟨xnegative, units, hx⟩ := x
    obtain ⟨ynegative, _, hy⟩ := y
    cases hunits
    simp only [signedUnits] at h hzero
    cases xnegative <;> cases ynegative <;> simp at h ⊢ <;> omega

namespace Inference

/-- Equal values are not told apart. -/
theorem Alike.of_sameValue {raw raw' : Scalar} (h : raw.SameValue raw') : Alike raw raw' := by
  rcases h with rfl | ⟨x, y, rfl, rfl, hequals⟩
  · exact .refl raw
  · cases x with
    | nan => cases hequals
    | infinite negative =>
      cases y with
      | infinite negative' =>
        cases hequals
        exact .refl _
      | finite | nan => cases hequals
    | finite x =>
      cases y with
      | infinite | nan => cases hequals
      | finite y =>
        rcases Finite64.eq_or_units_eq_zero hequals with rfl | ⟨hx, hy⟩
        · exact .refl _
        · have hwhole {z : Finite64} (hz : z.units = 0) : z.IsWhole := by
            rw [Finite64.IsWhole, hz]
            exact Nat.dvd_zero _
          refine ⟨⟨rfl, rfl, rfl, ?_⟩, ?_⟩
          · simp [Scalar.toNumber?, Binary64.finite?, hwhole hx, hwhole hy]
          · simp [Scalar.toText?, Binary64.toText, Layout.plain_write_zero hx,
              Layout.plain_write_zero hy]

/-! ### Results -/

/-- Whether two results are of one kind and one type, with the same options if there are any. -/
inductive Agrees : Inference → Inference → Prop
  | undetermined : Agrees undetermined undetermined
  | typed (type : FieldType) : Agrees (typed type) (typed type)
  | options {os os' : List String} (h : ∀ t, t ∈ os ↔ t ∈ os') : Agrees (options os) (options os')

/-- Whether options are the members of a list, each listed once and where it came up first. -/
structure ListsFirst (seen os : List String) : Prop where
  nodup : os.Nodup
  mem_iff : ∀ t, t ∈ os ↔ t ∈ seen
  inOrder : os.Pairwise fun a b => seen.idxOf a < seen.idxOf b

theorem listsFirst_eraseDups (seen : List String) : ListsFirst seen seen.eraseDups where
  nodup := nodup_eraseDups seen
  mem_iff _ := List.mem_eraseDups
  inOrder := pairwise_idxOf_eraseDups seen

/-- The options of a category are the tokens of the values by first sightings. -/
theorem listsFirst_of_ofValues {limits : Thresholds} {values : List Scalar} {os : List String}
    (h : ofValues limits values = options os) : ListsFirst (allTokens values) os := by
  have hshows := shows_ofValues limits values
  rw [h] at hshows
  cases hshows with
  | options =>
    rw [tokens_present]
    exact listsFirst_eraseDups _

theorem Agrees.refl (found : Inference) : Agrees found found := by
  cases found with
  | undetermined => exact .undetermined
  | typed type => exact .typed type
  | options os => exact .options fun _ => Iff.rfl

theorem Agrees.type_eq {found found' : Inference} (h : Agrees found found') :
    found.type = found'.type := by
  cases h <;> rfl

variable {values values' : List Scalar}

/-- Values that are not told apart have the same tokens. -/
theorem mem_allTokens_iff (h : Corresponds Alike values values') (t : String) :
    t ∈ allTokens values ↔ t ∈ allTokens values' := by
  rw [allTokens, allTokens, List.mem_filterMap, List.mem_filterMap]
  exact h.exists_iff fun raw raw' halike => by rw [halike.token]

/-- Lists with the same members make the same category, up to the order of its options. -/
theorem agrees_category (limits : Thresholds)
    (h : ∀ t, t ∈ allTokens values ↔ t ∈ allTokens values') :
    Agrees ((category? limits (values.filter (!·.isNull))).getD (typed .text))
      ((category? limits (values'.filter (!·.isNull))).getD (typed .text)) := by
  have hmem (t : String) : t ∈ (allTokens values).eraseDups ↔ t ∈ (allTokens values').eraseDups := by
    rw [List.mem_eraseDups, List.mem_eraseDups, h]
  have hlength : (allTokens values).eraseDups.length = (allTokens values').eraseDups.length :=
    ((List.perm_ext_iff_of_nodup (listsFirst_eraseDups _).nodup
      (listsFirst_eraseDups _).nodup).2 hmem).length_eq
  unfold category?
  dsimp only
  rw [tokens_present, tokens_present, hlength]
  split
  · exact .options hmem
  · exact .typed .text

/-- Two lists with the same members, in any order and however often they come up, lead to the same
kind of result and to the same type.  Where it is a category both have the same options, each of them
listed once, in the order in which the tokens of the list come up first. -/
theorem agrees_of_same_members (limits : Thresholds)
    (h : Corresponds Scalar.SameValue values values') :
    Agrees (ofValues limits values) (ofValues limits values') ∧
      (ofValues limits values).type = (ofValues limits values').type ∧
      (∀ os, ofValues limits values = options os → ListsFirst (allTokens values) os) ∧
      ∀ os, ofValues limits values' = options os → ListsFirst (allTokens values') os := by
  have halike := h.mono fun _ _ => Alike.of_sameValue
  have hagrees : Agrees (ofValues limits values) (ofValues limits values') := by
    rcases ofValues_of_corresponds limits (halike.mono fun _ _ h => h.toSameKind) with
      hsame | ⟨hleft, hright⟩
    · rw [hsame]
      exact .refl _
    · rw [hleft, hright]
      exact agrees_category limits (mem_allTokens_iff halike)
  exact ⟨hagrees, hagrees.type_eq, fun _ => listsFirst_of_ofValues, fun _ => listsFirst_of_ofValues⟩

/-- A zero comes up twice, and first, where the other zero was, and the token of two texts comes up with
either of them first. -/
theorem agrees_of_same_members_reordered :
    let values : List Scalar := [.text " Red", .number (.finite (.zero true)), .text "red", .null]
    let values' : List Scalar :=
      [.number (.finite (.zero false)), .null, .text "red", .text " Red", .number (.finite (.zero false))]
    Corresponds Scalar.SameValue values values' ∧
      ofValues {} values = options ["red", "0"] ∧
      ofValues {} values' = options ["0", "red"] ∧
      (ofValues {} values).type = (ofValues {} values').type := by
  intro values values'
  have hsame (raw : Scalar) : raw.SameValue raw := .inl rfl
  have hzeros : (Scalar.number (.finite (.zero true))).SameValue (.number (.finite (.zero false))) :=
    .inr ⟨_, _, rfl, rfl, rfl⟩
  have hcorresponds : Corresponds Scalar.SameValue values values' := by
    constructor
    · simp only [values, List.forall_mem_cons, List.not_mem_nil, false_imp_iff, implies_true, and_true]
      exact ⟨⟨_, by simp [values'], hsame _⟩, ⟨_, by simp [values'], hzeros⟩,
        ⟨_, by simp [values'], hsame _⟩, ⟨_, by simp [values'], hsame _⟩⟩
    · simp only [values', List.forall_mem_cons, List.not_mem_nil, false_imp_iff, implies_true,
        and_true]
      exact ⟨⟨_, by simp [values], hzeros⟩, ⟨_, by simp [values], hsame _⟩,
        ⟨_, by simp [values], hsame _⟩, ⟨_, by simp [values], hsame _⟩, ⟨_, by simp [values], hzeros⟩⟩
  obtain ⟨-, htype, -⟩ := agrees_of_same_members {} hcorresponds
  exact ⟨hcorresponds, by decide +kernel, by decide +kernel, htype⟩

end Inference
end LooseRecords
