import LooseRecords.Proofs.Samples

/-!
# The order of the rules

The rules for truth values, dates and numbers stand in a fixed order, but nothing hangs on it.  No
text is the name of a truth value, a date and a number at once, or two of these
(`Inference.count_readings_le_one`), and so no two of the rules accept values of which one is not
null.  Where at most one rule finds something, the first one that does is the same in every order.
-/

namespace LooseRecords

/-! ### At most one -/

section AtMostOne

variable {α β : Type}

/-- Where no two members of a list have a property, at most one has it. -/
theorem countP_le_one_of_pairwise {p : α → Bool} {xs : List α}
    (h : xs.Pairwise fun x y => p x = true → p y = false) : xs.countP p ≤ 1 := by
  induction h with
  | nil => exact Nat.zero_le 1
  | @cons x rest hx _ ih =>
    by_cases hp : p x = true
    · have hrest : rest.countP p = 0 := by
        rw [List.countP_eq_zero]
        intro y hy
        rw [hx y hy hp]
        exact Bool.false_ne_true
      rw [List.countP_cons_of_pos hp, hrest]
    · rwa [List.countP_cons_of_neg hp]

/-- Where at most one member of a list leads to a result, the first result does not depend on the
order of the members. -/
theorem findSome?_eq_of_perm {f : α → Option β} {xs ys : List α} (hperm : xs.Perm ys)
    (hone : xs.countP (fun x => (f x).isSome) ≤ 1) : xs.findSome? f = ys.findSome? f := by
  have hresults : (xs.filterMap f).Perm (ys.filterMap f) := hperm.filterMap f
  have hlength : (xs.filterMap f).length ≤ 1 := by
    rwa [List.length_filterMap_eq_countP]
  rw [← List.head?_filterMap, ← List.head?_filterMap]
  match hxs : xs.filterMap f with
  | [] =>
    rw [hxs] at hresults
    rw [List.nil_perm.1 hresults]
  | [x] =>
    rw [hxs] at hresults
    rw [List.singleton_perm.1 hresults]
  | _ :: _ :: _ =>
    rw [hxs] at hlength
    simp at hlength

/-- Of two results that exclude each other the second is missing where there is the first. -/
theorem isSome_eq_false_of_isSome {x : Option α} {y : Option β} (h : ∀ a, x = some a → y = none)
    (hx : x.isSome = true) : y.isSome = false := by
  obtain ⟨a, ha⟩ := Option.isSome_iff_exists.1 hx
  rw [h a ha, Option.isSome_none]

end AtMostOne

namespace Inference

/-- A text is read in at most one way: as the name of a truth value, as a date, or as a number. -/
theorem count_readings_le_one (s : String) :
    [(Token.boolLiteral? s).isSome, (Instant.ofText? s).isSome,
      (Scalar.numberOfText? s).isSome].count true ≤ 1 := by
  -- Each pair is apart by what stands after the sign and the digits in front of the text.
  have hdate : (Token.boolLiteral? s).isSome = true → (Instant.ofText? s).isSome = false :=
    isSome_eq_false_of_isSome fun _ => Instant.ofText?_eq_none_of_boolLiteral?
  have hnumber : (Token.boolLiteral? s).isSome = true → (Scalar.numberOfText? s).isSome = false :=
    isSome_eq_false_of_isSome fun _ => Scalar.numberOfText?_eq_none_of_boolLiteral?
  have hapart : (Instant.ofText? s).isSome = true → (Scalar.numberOfText? s).isSome = false := by
    refine isSome_eq_false_of_isSome fun t ht => ?_
    by_contra hsome
    obtain ⟨x, hx⟩ := Option.ne_none_iff_exists'.1 hsome
    rw [Instant.ofText?_eq_none_of_number hx] at ht
    cases ht
  refine countP_le_one_of_pairwise ?_
  simp only [List.pairwise_cons, List.forall_mem_cons, List.not_mem_nil, false_imp_iff,
    implies_true, and_true, List.Pairwise.nil, beq_iff_eq, beq_eq_false_iff_ne, ne_eq,
    Bool.not_eq_true]
  exact ⟨⟨hdate, hnumber⟩, hapart⟩

/-! ### Rules -/

/-- A rule looks at the values other than null, and at whether a null is among the values. -/
abbrev Rule := (present : List Scalar) → (hasNull : Bool) → Option Inference

/-- The rules for truth values, dates and numbers, in the order in which they are tried. -/
def kindRules : List Rule :=
  [boolean?, fun present _ => date? present, fun present _ => numeric? present]

/-- What the values of a field show if the rules are those of a list, tried in its order, with
categories after them. -/
def ofValuesBy (rules : List Rule) (limits : Thresholds) (values : List Scalar) : Inference :=
  let present := values.filter (!·.isNull)
  let hasNull := decide (present.length < values.length)
  if present = [] then undetermined
  else
    (rules.findSome? (fun rule => rule present hasNull) <|> category? limits present).getD
      (typed .text)

/-- The rules in their own order make the inference. -/
theorem ofValuesBy_kindRules (limits : Thresholds) (values : List Scalar) :
    ofValuesBy kindRules limits values = ofValues limits values := by
  unfold ofValuesBy ofValues kindRules
  dsimp only
  generalize values.filter (!·.isNull) = present
  simp only [List.findSome?_cons, List.findSome?_nil]
  cases boolean? present (decide (present.length < values.length)) with
  | some found => rfl
  | none =>
  cases date? present with
  | some found => rfl
  | none => cases numeric? present <;> rfl

/-- At most one of the rules accepts values of which there is one: a value that two rules accept
would be of two kinds. -/
theorem countP_kindRules_le_one {present : List Scalar} (hpresent : present ≠ []) (hasNull : Bool) :
    kindRules.countP (fun rule => (rule present hasNull).isSome) ≤ 1 := by
  -- A rule that accepts the values says of which kind each is, so one of them is enough.
  obtain ⟨raw, hraw⟩ := List.exists_mem_of_ne_nil present hpresent
  have hboolean {found : Inference} (h : boolean? present hasNull = some found) :
      isBoolean raw = true :=
    (boolean?_eq_some_iff.1 h).1.2 raw hraw
  have hdate {found : Inference} (h : date? present = some found) : isDate raw = true :=
    (date?_eq_some_iff.1 h).1 raw hraw
  have hnumber {found : Inference} (h : numeric? present = some found) :
      ∃ x, raw.toNumber? = some x :=
    (numeric?_eq_some_iff.1 h).1 raw hraw
  refine countP_le_one_of_pairwise ?_
  simp only [kindRules, List.pairwise_cons, List.forall_mem_cons, List.not_mem_nil, false_imp_iff,
    implies_true, and_true, List.Pairwise.nil]
  refine ⟨⟨?_, ?_⟩, ?_⟩
  · refine isSome_eq_false_of_isSome fun _ h => Option.eq_none_iff_forall_ne_some.2 fun _ h' => ?_
    exact not_isDate_of_isBoolean (hboolean h) (hdate h')
  · refine isSome_eq_false_of_isSome fun _ h => Option.eq_none_iff_forall_ne_some.2 fun _ h' => ?_
    obtain ⟨x, hx⟩ := hnumber h'
    exact not_isBoolean_of_toNumber? hx (hboolean h)
  · refine isSome_eq_false_of_isSome fun _ h => Option.eq_none_iff_forall_ne_some.2 fun _ h' => ?_
    obtain ⟨x, hx⟩ := hnumber h'
    exact not_isDate_of_toNumber? hx (hdate h)

/-- The rules for truth values, dates and numbers exclude each other.  No text is read in two of
these ways, and so at most one of the rules accepts values, once there is a value other than null.
Therefore it makes no difference to what values show in which order the three are tried. -/
theorem rules_exclude_each_other :
    (∀ s : String, [(Token.boolLiteral? s).isSome, (Instant.ofText? s).isSome,
      (Scalar.numberOfText? s).isSome].count true ≤ 1) ∧
    (∀ (present : List Scalar) (hasNull : Bool), present ≠ [] →
      kindRules.countP (fun rule => (rule present hasNull).isSome) ≤ 1) ∧
    ∀ rules : List Rule, rules.Perm kindRules → ∀ (limits : Thresholds) (values : List Scalar),
      ofValuesBy rules limits values = ofValues limits values := by
  refine ⟨count_readings_le_one, fun present hasNull h => countP_kindRules_le_one h hasNull, ?_⟩
  intro rules hperm limits values
  rw [← ofValuesBy_kindRules, ofValuesBy, ofValuesBy]
  by_cases hpresent : values.filter (!·.isNull) = []
  · rw [if_pos hpresent, if_pos hpresent]
  · rw [if_neg hpresent, if_neg hpresent,
      findSome?_eq_of_perm hperm.symm (countP_kindRules_le_one hpresent _)]

/-- Numbers that look like a day and a month, or like no number at all, are numbers also where this
rule is tried first. -/
theorem rules_exclude_each_other_reversed :
    let present : List Scalar := [.text "0xdec1", .text "1e5"]
    let values : List Scalar := [.text "0xdec1", .null, .text "1e5"]
    present ≠ [] ∧ kindRules.countP (fun rule => (rule present true).isSome) = 1 ∧
      kindRules.reverse.Perm kindRules ∧ ofValues {} values = typed .integer ∧
      ofValuesBy kindRules.reverse {} values = ofValues {} values := by
  intro present values
  obtain ⟨-, hone, horder⟩ := rules_exclude_each_other
  have hpresent : present ≠ [] := by simp [present]
  have hnumbers : 0 < kindRules.countP fun rule => (rule present true).isSome := by decide +kernel
  have hperm : kindRules.reverse.Perm kindRules := List.reverse_perm kindRules
  exact ⟨hpresent, Nat.le_antisymm (hone present true hpresent) hnumbers, hperm, by decide +kernel,
    horder kindRules.reverse hperm {} values⟩

end Inference
end LooseRecords
