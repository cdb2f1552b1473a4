import LooseRecords.Proofs.Coercion.Values
import LooseRecords.Proofs.Inference.Alike
import Mathlib.Data.List.Forall2

/-!
# Blanks around texts

Whatever reads a text trims it first: the readers of numbers, dates and truth values, the test whether
it is blank, and the maker of tokens.  So texts that trim to the same are alike for inference
(`Inference.Alike.of_trim_eq`) and for coercion under every type but text
(`Scalar.coerce_congr_of_trim_eq`), under which a text is kept as it is.
-/

namespace LooseRecords

/-- Blanks around a text make no difference to what trimming leaves. -/
theorem Text.trim_blanks_append_append_blanks {before after : String}
    (hbefore : isBlankText before = true) (hafter : isBlankText after = true) (s : String) :
    trim (before ++ s ++ after) = trim s := by
  have hblanks {blanks : String} (h : isBlankText blanks = true) :
      ∀ c ∈ blanks.toList, isBlank c = true :=
    List.all_eq_true.1 h
  rw [trim, trim, String.toList_append, String.toList_append,
    trimChars_append_blanks (hblanks hafter), trimChars_blanks_append (hblanks hbefore)]

/-! ### Texts that trim to the same -/

section Trimmed

variable {s s' : String}

theorem Text.isBlankText_congr (h : trim s = trim s') : isBlankText s = isBlankText s' := by
  rw [Bool.eq_iff_iff, isBlankText_iff_trimChars, isBlankText_iff_trimChars,
    String.ofList_injective h]

theorem Token.asciiWord_congr (h : Text.trim s = Text.trim s') : asciiWord s = asciiWord s' := by
  rw [asciiWord, asciiWord, h]

theorem Token.normalize_congr (h : Text.trim s = Text.trim s') : normalize s = normalize s' := by
  rw [normalize, normalize, h]

theorem Scalar.numberOfText?_congr (h : Text.trim s = Text.trim s') :
    numberOfText? s = numberOfText? s' := by
  rw [numberOfText?, numberOfText?, String.ofList_injective h]

theorem Instant.ofText?_congr (h : Text.trim s = Text.trim s') : ofText? s = ofText? s' := by
  rw [ofText?, ofText?, String.ofList_injective h]

/-- Under a type other than text, texts that trim to the same are coerced alike. -/
theorem Scalar.coerce_congr_of_trim_eq (h : Text.trim s = Text.trim s') {type : FieldType}
    (htype : type ≠ .text) : (text s).coerce type = (text s').coerce type := by
  have hnumber : (text s).toNumber? = (text s').toNumber? := numberOfText?_congr h
  have hread : (text s).read? type = (text s').read? type := by
    unfold read?
    cases type with
    | text => exact absurd rfl htype
    | integer => simp only [hnumber]
    | float => simp only [hnumber]
    | date => simp only [toInstant?, Instant.ofText?_congr h]
    | boolean => simp only [toBool?, Token.bool?, Token.asciiWord_congr h]
    | option => simp only [toText?, Option.map_some, Token.normalize_congr h]
  have hblank : (text s).isBlank = (text s').isBlank := Text.isBlankText_congr h
  rw [coerce, coerce, hblank, hread]

/-- Texts that trim to the same are alike for inference. -/
theorem Inference.Alike.of_trim_eq (h : Text.trim s = Text.trim s') :
    Alike (.text s) (.text s') where
  isNull := rfl
  isBoolean := by simp only [isBoolean, Token.boolLiteral?, Token.asciiWord_congr h]
  isDate := by simp only [isDate, Instant.ofText?_congr h]
  whole := by simp only [Scalar.toNumber?, Scalar.numberOfText?_congr h]
  token := by simp only [Scalar.toText?, Option.map_some, Token.normalize_congr h]

/-- Under the type text a text is kept as it is, or is null if it is blank. -/
theorem Scalar.coerce_text (s : String) :
    (text s).coerce .text = if Text.isBlankText s then .null else .text s :=
  rfl

end Trimmed

namespace Inference

/-! ### Padded values -/

/-- A value as it is, or a text with blanks put around it. -/
inductive Padded : Scalar → Scalar → Prop
  | same (raw : Scalar) : Padded raw raw
  | blanks {before after : String} (hbefore : Text.isBlankText before = true)
      (hafter : Text.isBlankText after = true) (s : String) :
      Padded (.text s) (.text (before ++ s ++ after))

theorem Padded.alike {raw raw' : Scalar} (h : Padded raw raw') : Alike raw raw' := by
  cases h with
  | same => exact .refl raw
  | blanks hbefore hafter s =>
    exact .of_trim_eq (Text.trim_blanks_append_append_blanks hbefore hafter s).symm

/-- From values that are alike one by one the same is inferred. -/
theorem ofValues_congr (limits : Thresholds) {values values' : List Scalar}
    (h : List.Forall₂ Alike values values') : ofValues limits values' = ofValues limits values := by
  have htokens : allTokens values = allTokens values' := by
    unfold allTokens
    induction h with
    | nil => rfl
    | cons halike _ ih => rw [List.filterMap_cons, List.filterMap_cons, halike.token, ih]
  have hkinds := (Corresponds.of_forall₂ h).mono fun _ _ halike => halike.toSameKind
  rcases ofValues_of_corresponds limits hkinds with hsame | ⟨hleft, hright⟩
  · exact hsame
  · rw [hleft, hright, category?, category?, tokens_present, tokens_present, htokens]

/-- Blanks around texts make no difference, but to texts that are kept.  With blanks put around any of
the texts in a list of values the same is inferred, to the order of the options.  A text with blanks
around it is coerced to the same value under every type but text; under text both are null, or each is
kept as it is. -/
theorem padding_irrelevant :
    (∀ limits values values', List.Forall₂ Padded values values' →
      ofValues limits values' = ofValues limits values) ∧
    ∀ (s : String) {before after : String}, Text.isBlankText before = true →
      Text.isBlankText after = true →
      (∀ f : Field, f.type ≠ .text →
        (Scalar.text (before ++ s ++ after)).coerce f.type = (Scalar.text s).coerce f.type) ∧
      ∀ f : Field, f.type = .text →
        ((Scalar.text s).coerce f.type = .null ∧
          (Scalar.text (before ++ s ++ after)).coerce f.type = .null) ∨
        ((Scalar.text s).coerce f.type = .text s ∧
          (Scalar.text (before ++ s ++ after)).coerce f.type = .text (before ++ s ++ after)) := by
  constructor
  · exact fun limits values values' h => ofValues_congr limits (h.imp fun _ _ => Padded.alike)
  · intro s before after hbefore hafter
    have htrim := Text.trim_blanks_append_append_blanks hbefore hafter s
    refine ⟨fun f htype => Scalar.coerce_congr_of_trim_eq htrim htype, fun f htype => ?_⟩
    rw [htype, Scalar.coerce_text, Scalar.coerce_text, Text.isBlankText_congr htrim]
    cases Text.isBlankText s with
    | true => exact .inl ⟨rfl, rfl⟩
    | false => exact .inr ⟨rfl, rfl⟩

/-- Blanks beyond those of ASCII around a text, in a blank text and around a number. -/
theorem padding_irrelevant_unicode :
    let values : List Scalar := [.text "Red", .number (.finite (.zero false)), .text ""]
    let values' : List Scalar := [.text ("\u00a0\t" ++ "Red" ++ "\u2003"),
      .number (.finite (.zero false)), .text (" " ++ "" ++ "\u3000")]
    let f : Field := ⟨"Width", "width", .integer, []⟩
    List.Forall₂ Padded values values' ∧ ofValues {} values' = ofValues {} values ∧
      ofValues {} values = options ["red", "0", ""] ∧ f.type ≠ .text ∧
      (Scalar.text ("\u2028" ++ "0x10" ++ "\u0085")).coerce f.type =
        (Scalar.text "0x10").coerce f.type := by
  intro values values' f
  obtain ⟨hinference, hcoercion⟩ := padding_irrelevant
  have hpadded : List.Forall₂ Padded values values' :=
    .cons (.blanks (by decide) (by decide) "Red") (.cons (.same _)
      (.cons (.blanks (by decide) (by decide) "") .nil))
  have hinteger : f.type ≠ .text := by decide
  have hbefore : Text.isBlankText "\u2028" = true := by decide
  have hafter : Text.isBlankText "\u0085" = true := by decide
  obtain ⟨hsame, -⟩ := hcoercion "0x10" hbefore hafter
  exact ⟨hpadded, hinference {} values values' hpadded, by decide +kernel, hinteger, hsame f hinteger⟩

end Inference
end LooseRecords
