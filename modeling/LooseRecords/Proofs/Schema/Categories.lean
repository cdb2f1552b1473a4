import LooseRecords.Proofs.Query.FieldQueries
import LooseRecords.Proofs.Schema.Sightings
import LooseRecords.Proofs.Token
import Mathlib.Data.List.Nodup

/-!
# The options of categories

Inference looks at the values of a field as one sample and lists the distinct tokens in it;
coercion makes a token of each value on its own.  Both take the token of the same text, so under the
inferred schema the values in the cells of a category are its options, with one exception: a blank
value has the empty token, which inference lists, but its cell is null.
-/

namespace LooseRecords

namespace Inference

/-! ### Distinct tokens -/

theorem nodup_distinct (tokens : List String) : (distinct tokens).Nodup := by
  rw [distinct_eq_eraseDups]
  exact nodup_eraseDups tokens

theorem mem_distinct {tokens : List String} {t : String} : t ∈ distinct tokens ↔ t ∈ tokens := by
  rw [distinct_eq_eraseDups, List.mem_eraseDups]

/-- The tokens of values are those of their texts. -/
theorem mem_tokens {present : List Scalar} {t : String} :
    t ∈ tokens present ↔ ∃ raw ∈ present, raw.toText?.map Token.normalize = some t := by
  rw [tokens, mem_distinct, List.mem_filterMap]

/-! ### When a category is found -/

/-- Only the last rule finds categories: where values are of one, it lists their distinct tokens,
and there are neither too few nor too many of them. -/
theorem values_of_type_eq_option {limits : Thresholds} {values : List Scalar}
    (h : (ofValues limits values).type = .option) :
    (ofValues limits values).values = tokens (values.filter (!·.isNull)) ∧
      limits.least ≤ (tokens (values.filter (!·.isNull))).length ∧
      (tokens (values.filter (!·.isNull))).length ≤ limits.most := by
  have hshows := shows_ofValues limits values
  generalize ofValues limits values = found at h hshows ⊢
  cases hshows with
  | options _ hlimits => exact ⟨rfl, hlimits⟩
  | _ => cases h

end Inference

/-! ### Cells of categories -/

namespace Scalar

/-- A value with a text is blank where its text is. -/
theorem isBlank_of_toText? {raw : Scalar} {s : String} (h : raw.toText? = some s) :
    raw.isBlank = Text.isBlankText s := by
  cases hblank : raw.isBlank with
  | false => exact (isBlankText_of_toText? hblank h).symm
  | true =>
    cases raw with
    | text t =>
      cases h
      exact hblank.symm
    | null => cases h
    | bool b => cases hblank
    | number x => cases hblank

/-- Under a category a value becomes the token of its text, unless the token is empty. -/
theorem coerce_option_eq_iff {raw : Scalar} {t : String} :
    raw.coerce .option = .option t ↔ raw.toText?.map Token.normalize = some t ∧ t ≠ "" := by
  cases htext : raw.toText? with
  | none =>
    have hblank : raw.isBlank = true := by
      cases raw with
      | null => rfl
      | _ => cases htext
    simp [coerce, hblank]
  | some s =>
    have hread : raw.read? .option = some (.option (Token.normalize s)) := by
      simp [read?, htext]
    have hempty : Token.normalize s = "" ↔ Text.isBlankText s = true := Token.normalize_eq_empty_iff
    rw [coerce, isBlank_of_toText? htext, hread, Option.map_some, Option.some.injEq,
      Option.getD_some]
    generalize Token.normalize s = token at hempty ⊢
    generalize Text.isBlankText s = blank at hempty ⊢
    cases blank with
    | false =>
      have hne : token ≠ "" := fun h => Bool.false_ne_true (hempty.1 h)
      constructor
      · intro h
        cases h
        exact ⟨rfl, hne⟩
      · rintro ⟨rfl, -⟩
        rfl
    | true =>
      constructor
      · intro h
        cases h
      · rintro ⟨rfl, hne⟩
        exact absurd (hempty.2 rfl) hne

end Scalar

namespace Schema

/-- The options of an inferred category are the tokens of the values that the records have under its
display name, as many as the thresholds allow. -/
theorem options_of_mem_infer {limits : Thresholds} {records : List RawRecord} {f : Field}
    (hf : f ∈ (infer limits records).fields) (htype : f.type = .option) :
    f.options = Inference.tokens ((records.filterMap (·.get? f.display)).filter (!·.isNull)) ∧
      limits.least ≤ f.options.length ∧ f.options.length ≤ limits.most := by
  obtain ⟨hfoundType, hfoundOptions⟩ := inference_of_mem_infer hf
  rw [hfoundType] at htype
  obtain ⟨hvalues, hlimits⟩ := Inference.values_of_type_eq_option htype
  rw [hfoundOptions, hvalues]
  exact ⟨rfl, hlimits⟩

/-- The options of an inferred category are the tokens of the texts that the records have under its
display name. -/
theorem mem_options_iff {limits : Thresholds} {records : List RawRecord} {f : Field}
    (hf : f ∈ (infer limits records).fields) (htype : f.type = .option) {t : String} :
    t ∈ f.options ↔ ∃ r ∈ records, ∃ raw, r.get? f.display = some raw ∧
      raw.toText?.map Token.normalize = some t := by
  rw [(options_of_mem_infer hf htype).1, Inference.mem_tokens]
  constructor
  · rintro ⟨raw, hraw, htoken⟩
    obtain ⟨r, hr, hget⟩ := List.mem_filterMap.1 (List.mem_of_mem_filter hraw)
    exact ⟨r, hr, raw, hget, htoken⟩
  · rintro ⟨r, hr, raw, hget, htoken⟩
    have hnull : raw.isNull = false := by
      cases raw with
      | null => cases htoken
      | _ => rfl
    refine ⟨raw, List.mem_filter.2 ⟨List.mem_filterMap.2 ⟨r, hr, hget⟩, ?_⟩, htoken⟩
    rw [hnull]
    rfl

end Schema

/-- The values in the cells of a category are the tokens of the texts that the records have under
its display name, but for the empty token. -/
theorem exists_option_cell_iff {s : Schema} (hnodup : s.names.Nodup) {f : Field}
    (hf : f ∈ s.fields) (htype : f.type = .option) {records : List RawRecord} {o : String} :
    (∃ row ∈ coerceAll records s, row.get? f.name = some (.option o)) ↔
      (∃ r ∈ records, ∃ raw, r.get? f.display = some raw ∧
        raw.toText?.map Token.normalize = some o) ∧ o ≠ "" := by
  constructor
  · rintro ⟨row, hrow, hcell⟩
    obtain ⟨r, hr, -, hget⟩ := exists_get?_of_mem_coerceAll hnodup hf hrow
    rw [hget, Option.some.injEq, RawRecord.coerceField, htype] at hcell
    cases hraw : r.get? f.display with
    | none =>
      rw [hraw] at hcell
      cases hcell
    | some raw =>
      rw [hraw] at hcell
      obtain ⟨htoken, hne⟩ := Scalar.coerce_option_eq_iff.1 hcell
      exact ⟨⟨r, hr, raw, hraw, htoken⟩, hne⟩
  · rintro ⟨⟨r, hr, raw, hraw, htoken⟩, hne⟩
    refine ⟨r.coerce s, List.mem_map_of_mem hr, ?_⟩
    rw [r.get?_coerce, Schema.field?_of_mem hnodup hf, Option.map_some, RawRecord.coerceField,
      hraw, htype]
    exact congrArg some (Scalar.coerce_option_eq_iff.2 ⟨htoken, hne⟩)

/-- A condition to be equal to a token is answered with the rows that have it, so with at least one
where there is one. -/
theorem exists_queryField_ne_nil {s : Schema} (hnodup : s.names.Nodup) {f : Field}
    (hf : f ∈ s.fields) {records : List RawRecord} {o : String} (hsettled : Token.normalize o = o)
    (hcell : ∃ row ∈ coerceAll records s, row.get? f.name = some (.option o)) :
    ∃ rows, queryField records s f.name .eq (.string o) = .ok rows ∧ rows ≠ [] := by
  obtain ⟨row, hrow, hget⟩ := hcell
  have hnumber : Operator.eq.NeedsNumber → f.type.IsNumeric ∧ (Json.string o).kind = .number := by
    simp [Operator.NeedsNumber]
  refine ⟨_, queryField_of_fits hnodup hf hnumber (fun _ => by simp [Json.kind]) records, ?_⟩
  have hmeets : (Request.mk .eq (.string o)).Meets (.option o) := congrArg some hsettled
  have hmem : row ∈ (coerceAll records s).filter fun row =>
      ∃ value ∈ row.get? f.name, (Request.mk .eq (.string o)).Meets value := by
    rw [List.mem_filter]
    exact ⟨hrow, by simpa [hget] using hmeets⟩
  exact List.ne_nil_of_mem hmem

/-- The options of a category in an inferred schema.  They are distinct tokens, as many as the
thresholds allow, and the values in the cells of the rows are exactly these options but for the
empty one.  So a condition to be equal to one of them is answered with at least one row. -/
theorem option_vocabulary (limits : Thresholds) (records : List RawRecord) (f : Field)
    (hf : f ∈ (Schema.infer limits records).fields) (htype : f.type = .option) :
    let s := Schema.infer limits records
    f.options.Nodup ∧ limits.least ≤ f.options.length ∧ f.options.length ≤ limits.most ∧
      (∀ o ∈ f.options, Token.normalize o = o) ∧
      (∀ o, (∃ row ∈ coerceAll records s, row.get? f.name = some (.option o)) ↔
        o ∈ f.options ∧ o ≠ "") ∧
      ∀ o ∈ f.options, o ≠ "" →
        ∃ rows, queryField records s f.name .eq (.string o) = .ok rows ∧ rows ≠ [] := by
  intro s
  have hnodup : s.names.Nodup := Schema.nodup_names_infer limits records
  obtain ⟨hoptions, hleast, hmost⟩ := Schema.options_of_mem_infer hf htype
  have hdistinct : f.options.Nodup := by
    rw [hoptions]
    exact Inference.nodup_distinct _
  have hsettled : ∀ o ∈ f.options, Token.normalize o = o := by
    intro o ho
    obtain ⟨r, -, raw, -, htoken⟩ := (Schema.mem_options_iff hf htype).1 ho
    obtain ⟨text, -, rfl⟩ := Option.map_eq_some_iff.1 htoken
    exact Token.normalize_normalize text
  have hcells (o : String) : (∃ row ∈ coerceAll records s, row.get? f.name = some (.option o)) ↔
      o ∈ f.options ∧ o ≠ "" := by
    rw [exists_option_cell_iff hnodup hf htype, Schema.mem_options_iff hf htype]
  refine ⟨hdistinct, hleast, hmost, hsettled, hcells, ?_⟩
  intro o ho hne
  exact exists_queryField_ne_nil hnodup hf (hsettled o ho) ((hcells o).2 ⟨ho, hne⟩)

/-- A blank text and a capital sigma at the end of a word are among the values; the one gives the
empty option, which no cell holds, the other an option that finds its row. -/
theorem option_vocabulary_blank :
    let records : List RawRecord := [" ΟΔΟΣ", "\t", "οδος ", "x"].map fun text =>
      .ofJson (.object [("Street", .string text)])
    let f : Field := ⟨"Street", "street", .option, ["οδος", "", "x"]⟩
    let s := Schema.infer {} records
    f ∈ s.fields ∧ f.type = .option ∧
      (¬∃ row ∈ coerceAll records s, row.get? "street" = some (.option "")) ∧
      "οδος" ∈ f.options ∧ "οδος" ≠ "" ∧
      ∃ rows, queryField records s "street" .eq (.string "οδος") = .ok rows ∧ rows ≠ [] := by
  intro records f s
  have hf : f ∈ s.fields := by decide +kernel
  have hmem : "οδος" ∈ f.options := List.mem_cons_self
  have hne : "οδος" ≠ "" := by decide
  obtain ⟨-, -, -, -, hcells, hqueries⟩ := option_vocabulary {} records f hf rfl
  exact ⟨hf, rfl, fun h => ((hcells "").1 h).2 rfl, hmem, hne, hqueries "οδος" hmem hne⟩

end LooseRecords
