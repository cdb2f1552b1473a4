import LooseRecords.Proofs.Coercion.Integers
import LooseRecords.Proofs.Inference.Alike
import LooseRecords.Proofs.Inference.Members
import LooseRecords.Proofs.Json.NumberText

/-!
# Numbers in quotes

A JSON number and the text of it in quotes denote the same floating-point number, though they take
different ways: the one is kept as a whole number of up to 64 bits if it can be, the other is taken
for digits of another base first.  So they are coerced alike under the numeric types, and where numbers
are inferred it does not matter which of them are in quotes (`Inference.quotes_irrelevant`).

All this is meant of numbers that both readers round correctly.  The text in quotes always denotes the
nearest number, the JSON number need not (`Json.Number.IsNearest`); it does if it is kept as a whole
number, or has few digits and places.
-/

namespace LooseRecords

/-! ### Values that denote the same number -/

namespace Scalar

/-- Values that denote the same number are coerced alike under the numeric types. -/
theorem coerce_congr_of_toNumber? {raw raw' : Scalar} {x : Finite64}
    (h : raw.toNumber? = some x) (h' : raw'.toNumber? = some x) {type : FieldType}
    (htype : type.IsNumeric) : raw.coerce type = raw'.coerce type := by
  have hread : raw.read? type = raw'.read? type := by
    unfold read?
    rcases htype with rfl | rfl <;> simp only [h, h']
  rw [coerce, coerce, isBlank_of_toNumber? h, isBlank_of_toNumber? h', hread]

/-- A text that is a JSON number denotes a number, and the JSON value denotes the same if it is the
nearest one. -/
theorem exists_toNumber?_of_parse {t : String} {n : Json.Number}
    (h : Json.parse t = .ok (.number n)) (hnearest : n.IsNearest t) :
    ∃ x, n.toBinary64 = .finite x ∧ (text t).toNumber? = some x ∧
      (ofJson (.number n)).toNumber? = some x := by
  obtain ⟨x, hx, -⟩ := n.exists_toBinary64_eq
  refine ⟨x, hx, ?_, ?_⟩
  · rw [toNumber?, Json.numberOfText?_of_parse h hnearest, hx, Binary64.finite?]
  · rw [ofJson, toNumber?, hx, Binary64.finite?]

end Scalar

namespace Inference

/-- A value as it is, or instead of a number a text that is a JSON number, correctly rounded, and equal
to it. -/
inductive Quotes : Scalar → Scalar → Prop
  | same (raw : Scalar) : Quotes raw raw
  | number {x : Binary64} {t : String} {n : Json.Number} (hparse : Json.parse t = .ok (.number n))
      (hnearest : n.IsNearest t) (hequals : n.toBinary64.Equals x) : Quotes (.number x) (.text t)

/-- Whether a text spells a number of up to 53 bits and twenty-two places. -/
def IsBrief (t : String) : Prop :=
  ∃ p : Json.NumberParts, p.Spells (Text.trimChars t.toList) ∧ p.decimal.significand ≤ 2 ^ 53 ∧
    p.decimal.exponent.natAbs ≤ 22

/-- Values that denote numbers of which both or none is whole are of one kind. -/
theorem SameKind.of_toNumber? {raw raw' : Scalar} {x x' : Finite64} (h : raw.toNumber? = some x)
    (h' : raw'.toNumber? = some x') (hwhole : x.IsWhole ↔ x'.IsWhole) : SameKind raw raw' where
  isNull := by
    rw [Scalar.isNull_of_isBlank_eq_false (Scalar.isBlank_of_toNumber? h),
      Scalar.isNull_of_isBlank_eq_false (Scalar.isBlank_of_toNumber? h')]
  isBoolean := by
    rw [Bool.eq_iff_iff]
    exact iff_of_false (not_isBoolean_of_toNumber? h) (not_isBoolean_of_toNumber? h')
  isDate := by
    rw [Bool.eq_iff_iff]
    exact iff_of_false (not_isDate_of_toNumber? h) (not_isDate_of_toNumber? h')
  whole := by
    rw [h, h', Option.map_some, Option.map_some, decide_eq_decide.2 hwhole]

/-- A number and its text are of one kind. -/
theorem Quotes.sameKind {raw raw' : Scalar} (h : Quotes raw raw') : SameKind raw raw' := by
  cases h with
  | same => exact .refl raw
  | @number x t n hparse hnearest hequals =>
    obtain ⟨y, hy, htext, -⟩ := Scalar.exists_toNumber?_of_parse hparse hnearest
    rw [hy] at hequals
    cases x with
    | finite x =>
      refine .of_toNumber? rfl htext ?_
      rw [Finite64.IsWhole, Finite64.IsWhole, ← x.natAbs_signedUnits, ← y.natAbs_signedUnits,
        show y.signedUnits = x.signedUnits from hequals]
    | infinite | nan => cases hequals

/-- Quotes around numbers make no difference to what is a number, where both readers round correctly.  A
text that is a JSON number denotes the number that the JSON value is, and both are coerced alike under
the numeric types.  Where numbers are inferred from values, the same is inferred if any of the numbers
are put in quotes.  Whole numbers that are kept as they are, and numbers of few digits and places, are
rounded correctly. -/
theorem quotes_irrelevant :
    (∀ t n, Json.parse t = .ok (.number n) → n.IsNearest t →
      (∃ x, (Scalar.text t).toNumber? = some x) ∧
      (Scalar.text t).toNumber? = (Scalar.ofJson (.number n)).toNumber? ∧
      ∀ f : Field, f.type.IsNumeric →
        (Scalar.text t).coerce f.type = (Scalar.ofJson (.number n)).coerce f.type) ∧
    (∀ limits values values', List.Forall₂ Quotes values values' →
      (ofValues limits values).type.IsNumeric →
      ofValues limits values' = ofValues limits values) ∧
    ∀ t n, Json.parse t = .ok (.number n) → (∃ m, n = .integer m) ∨ IsBrief t → n.IsNearest t := by
  refine ⟨?_, ?_, ?_⟩
  · intro t n h hnearest
    obtain ⟨x, -, htext, hjson⟩ := Scalar.exists_toNumber?_of_parse h hnearest
    exact ⟨⟨x, htext⟩, htext.trans hjson.symm,
      fun f hf => Scalar.coerce_congr_of_toNumber? htext hjson hf⟩
  · intro limits values values' h hnumeric
    have hkinds := (Corresponds.of_forall₂ h).mono fun _ _ => Quotes.sameKind
    refine (ofValues_of_corresponds limits hkinds).resolve_right fun hrest => ?_
    rw [hrest.1] at hnumeric
    rcases type_category limits (values.filter (!·.isNull)) with htype | htype <;>
      rw [htype] at hnumeric <;> exact absurd hnumeric (by decide)
  · rintro t n h (⟨m, rfl⟩ | ⟨p, hspells, hsignificand, hexponent⟩)
    · exact Json.isNearest_of_parse_integer h
    · exact Json.isNearest_of_parse h hspells hsignificand hexponent

/-- A literal that is rounded beside a text, a null and a number that is no text. -/
theorem quotes_irrelevant_rounded :
    let t := "9007199254740993"
    let n : Json.Number := .integer ⟨9007199254740993, by decide, by decide⟩
    let values : List Scalar := [.number (.ofInt 9007199254740992), .text " 7e0 ", .null]
    let values' : List Scalar := [.text t, .text " 7e0 ", .null]
    let f : Field := ⟨"Count", "count", .integer, []⟩
    Json.parse t = .ok (.number n) ∧ n.IsNearest t ∧ f.type.IsNumeric ∧
      (Scalar.text t).coerce f.type = (Scalar.ofJson (.number n)).coerce f.type ∧
      List.Forall₂ Quotes values values' ∧ (ofValues {} values).type.IsNumeric ∧
      ofValues {} values' = ofValues {} values := by
  intro t n values values' f
  obtain ⟨hcoercion, hinference, hrounded⟩ := quotes_irrelevant
  have hparse : Json.parse t = .ok (.number n) := by
    let p : Json.NumberParts := ⟨false, t.toList, none, none⟩
    have hall : p.whole.all Digits.isDigit = true := by decide +kernel
    have hfirst : p.whole.head? ≠ some '0' := by decide +kernel
    have hne : p.whole ≠ [] := by decide +kernel
    have hwhole : Json.IsWholePart p.whole :=
      ⟨⟨hne, List.all_eq_true.1 hall⟩, fun rest heq => absurd (by rw [heq]; rfl) hfirst⟩
    have hspells : p.Spells (p.signChars ++ (p.whole ++ ([] ++ []))) := .mk hwhole .none .none
    rw [List.append_nil, List.append_nil] at hspells
    have hnumber : p.number = .ok n := by decide +kernel
    exact Json.NumberParts.Spells.parse_eq hspells hnumber
  have hnearest : n.IsNearest t := hrounded t n hparse (.inl ⟨_, rfl⟩)
  have hnumeric : f.type.IsNumeric := .inl rfl
  obtain ⟨-, -, hsame⟩ := hcoercion t n hparse hnearest
  have hquotes : List.Forall₂ Quotes values values' :=
    .cons (.number hparse hnearest (by decide +kernel)) (.cons (.same _) (.cons (.same _) .nil))
  have hinteger : (ofValues {} values).type.IsNumeric := by decide +kernel
  exact ⟨hparse, hnearest, hnumeric, hsame f hnumeric, hquotes, hinteger,
    hinference {} values values' hquotes hinteger⟩

end Inference
end LooseRecords
