import LooseRecords.Proofs.Coercion.Integers
import LooseRecords.Proofs.Inference
import LooseRecords.Proofs.Json.WrittenNumbers
import LooseRecords.Proofs.Number.Truncate
import LooseRecords.Proofs.Token

/-!
# What coercion yields

Not every typed value comes out of coercion: integers have at most 53 significant bits, as they are
whole parts of floating-point numbers, other numbers are finite, values of categories are settled
tokens, and texts are not blank.  `FieldType.Yields` says so for each type, and `yields_coerce` that
coercion keeps to it.

These are the properties for which the JSON value of a coerced value leads back to it: coercing it
again under a type other than that of dates gives the same value (`coerce_again_of_ne_date`).
-/

namespace LooseRecords

/-- The values that coercion yields under a type. -/
inductive FieldType.Yields : FieldType → TypedValue → Prop
  | null (type : FieldType) : Yields type .null
  | text {s : String} (hblank : Text.isBlankText s = false) : Yields .text (.text s)
  | integer {n : Word} (hfits : FitsSignificand n.val) : Yields .integer (.integer n)
  | float (x : Finite64) : Yields .float (.float (.finite x))
  | date (t : Instant) : Yields .date (.date t)
  | boolean (b : Bool) : Yields .boolean (.boolean b)
  | option {s : String} (hblank : Text.isBlankText s = false) (hsettled : Token.normalize s = s) :
      Yields .option (.option s)

namespace Scalar

/-- The text of a value that is not blank is not blank. -/
theorem isBlankText_of_toText? {raw : Scalar} {s : String} (hblank : raw.isBlank = false)
    (h : raw.toText? = some s) : Text.isBlankText s = false := by
  cases raw with
  | null => cases h
  | bool b =>
    cases h
    cases b <;> decide
  | number x =>
    cases h
    exact x.isBlankText_toText .plain
  | text t =>
    cases h
    exact hblank

/-- What is read from a value that is not blank. -/
theorem yields_of_read? {raw : Scalar} {type : FieldType} {value : TypedValue}
    (hblank : raw.isBlank = false) (h : raw.read? type = some value) : type.Yields value := by
  cases type with
  | text =>
    obtain ⟨s, hs, rfl⟩ := Option.map_eq_some_iff.1 h
    exact .text (isBlankText_of_toText? hblank hs)
  | integer =>
    obtain ⟨n, hn, rfl⟩ := Option.map_eq_some_iff.1 h
    obtain ⟨x, -, hword⟩ := Option.bind_eq_some_iff.1 hn
    refine .integer ?_
    rw [Word.val_of_ofInt? hword]
    exact x.fitsSignificand_truncate
  | float =>
    obtain ⟨x, -, rfl⟩ := Option.map_eq_some_iff.1 h
    exact .float x
  | date =>
    obtain ⟨t, -, rfl⟩ := Option.map_eq_some_iff.1 h
    exact .date t
  | boolean =>
    obtain ⟨b, -, rfl⟩ := Option.map_eq_some_iff.1 h
    exact .boolean b
  | option =>
    obtain ⟨s, hs, rfl⟩ := Option.map_eq_some_iff.1 h
    refine .option ?_ (Token.normalize_normalize s)
    rw [Token.isBlankText_normalize]
    exact isBlankText_of_toText? hblank hs

/-- Coercion under a type yields values of the type. -/
theorem yields_coerce (raw : Scalar) (type : FieldType) : type.Yields (raw.coerce type) := by
  unfold coerce
  split
  · exact .null type
  · next hblank =>
    rw [Bool.not_eq_true] at hblank
    cases hread : raw.read? type with
    | none => exact .null type
    | some value => exact yields_of_read? hblank hread

/-- A value that is not blank is coerced to what is read from it. -/
theorem coerce_of_read? {raw : Scalar} {type : FieldType} {value : TypedValue}
    (hblank : raw.isBlank = false) (h : raw.read? type = some value) : raw.coerce type = value := by
  rw [coerce, hblank, h]
  rfl

end Scalar

/-- The JSON value of what coercion yields is coerced to the same value, dates apart. -/
theorem FieldType.Yields.coerce_toJson {type : FieldType} {value : TypedValue}
    (h : type.Yields value) (hdate : type ≠ .date) :
    (Scalar.ofJson value.toJson).coerce type = value := by
  cases h with
  | null => rfl
  | text hblank => exact Scalar.coerce_of_read? hblank rfl
  | @integer n hfits =>
    show (Scalar.ofJson (.number (.integer (.ofWord n)))).coerce .integer = .integer n
    rw [Scalar.coerce_integer_ofJson (.inl rfl), nearestInt_eq_self_iff.2 hfits, n.ofInt?_val]
    rfl
  | float x => rfl
  | date t => exact absurd rfl hdate
  | boolean b => rfl
  | @option s hblank hsettled =>
    refine Scalar.coerce_of_read? hblank ?_
    show some (TypedValue.option (Token.normalize s)) = _
    rw [hsettled]

/-- Coercing a second time changes nothing: whatever a value is, `nan` and the infinities included,
under a field that is not of dates the JSON value of what it is coerced to is coerced to the same. -/
theorem coerce_again_of_ne_date (raw : Scalar) (f : Field) (h : f.type ≠ .date) :
    (Scalar.ofJson (raw.coerce f.type).toJson).coerce f.type = raw.coerce f.type :=
  (raw.yields_coerce f.type).coerce_toJson h

/-- A value of a category that ends in a capital sigma, with blanks around it, is settled after the
first time. -/
theorem coerce_again_final_sigma :
    let f : Field := ⟨"Street", "street", .option, ["οδος"]⟩
    let raw : Scalar := .text " ΟΔΟΣ\n"
    f.type ≠ .date ∧ raw.coerce f.type = .option "οδος" ∧
      (Scalar.ofJson (raw.coerce f.type).toJson).coerce f.type = raw.coerce f.type := by
  intro f raw
  have htype : f.type ≠ .date := by decide
  exact ⟨htype, by decide +kernel, coerce_again_of_ne_date raw f htype⟩

end LooseRecords
