import LooseRecords.Proofs.Coercion.Integers
import LooseRecords.Proofs.Query.Meaning
import LooseRecords.Proofs.Query.Requests
import LooseRecords.Proofs.Record

/-!
# Integers through coercion and queries

Raw values hold every number as the nearest floating-point number, so an integer of 64 bits comes
out of coercion as `nearestInt` of itself, and a condition compares it with `nearestInt` of the
operand.  The numbers of at most 53 significant bits are untouched by all of this; the others are
not, the first of them being `2 ^ 53 + 1`.  The largest 512 integers are rounded to `2 ^ 63`, which
no signed word holds.
-/

namespace LooseRecords

/-! ### Words -/

namespace Word

/-- No word holds the rounded number exactly for the 512 largest words. -/
theorem ofInt?_nearestInt_eq_none_iff (a : Word) :
    ofInt? (nearestInt a.val) = none ↔ 9223372036854775296 ≤ a.val := by
  have hbound := natAbs_nearestInt_le a.natAbs_val_le
  have hnone : ofInt? (nearestInt a.val) = none ↔ nearestInt a.val = 9223372036854775808 := by
    rw [ofInt?_eq_none_iff]
    omega
  have hupper := a.upper
  rw [hnone]
  rcases Int.lt_or_le a.val 0 with hneg | hnonneg
  · rw [nearestInt_of_neg hneg]
    omega
  · rw [nearestInt_of_nonneg hnonneg]
    rcases Nat.lt_or_ge a.val.natAbs (2 ^ 62) with hsmall | hlarge
    · have := nearestNat_le_two_pow (Nat.le_of_lt hsmall)
      omega
    · have hlog : a.val.natAbs.log2 = 62 := (Nat.log2_eq_iff (by omega)).2 ⟨hlarge, by omega⟩
      have hstep : wholeStep a.val.natAbs = 1024 := by simp [wholeStep, hlog]
      unfold nearestNat divNearest
      rw [hstep]
      dsimp only
      split
      · omega
      · split <;> omega

end Word

/-! ### Comparing with an integer -/

/-- The comparison of whole numbers that an operator stands for. -/
def Operator.Compares (op : Operator) (a b : Int) : Prop :=
  match op with
  | .eq => a = b
  | .gt => b < a
  | .lt => a < b

instance (op : Operator) (a b : Int) : Decidable (op.Compares a b) := by
  unfold Operator.Compares
  split <;> infer_instance

/-- The request to compare with an integer. -/
def Request.ofWord (op : Operator) (b : Word) : Request :=
  ⟨op, .number (.integer (.ofWord b))⟩

/-- An integer meets a request when it compares with the rounded operand. -/
theorem Request.meets_ofWord_iff (op : Operator) (w b : Word) :
    (Request.ofWord op b).Meets (.integer w) ↔
      op.Compares (nearestInt w.val) (nearestInt b.val) := by
  have hw : w.val.natAbs ≤ 2 ^ 64 := Nat.le_trans w.natAbs_val_le (by decide)
  have hb : b.val.natAbs ≤ 2 ^ 64 := Nat.le_trans b.natAbs_val_le (by decide)
  unfold Request.Meets Operator.Compares Request.ofWord
  cases op with
  | eq => exact equals_ofInt_iff hw hb
  | gt =>
    show (∃ x ∈ some (Binary64.ofInt b.val), ∃ y ∈ some (Binary64.ofInt w.val), x < y) ↔ _
    simpa using ofInt_lt_ofInt_iff hb hw
  | lt =>
    show (∃ x ∈ some (Binary64.ofInt b.val), ∃ y ∈ some (Binary64.ofInt w.val), y < x) ↔ _
    simpa using ofInt_lt_ofInt_iff hw hb

/-- Null compares with no integer. -/
theorem Request.not_meets_ofWord_null (op : Operator) (b : Word) :
    ¬(Request.ofWord op b).Meets .null := by
  unfold Request.Meets Request.ofWord
  cases op <;> simp [Condition.EqualsOperand, Scalar.ofJson, TypedValue.toNumber?]

/-- A condition with an integer as operand resolves on a field of integers. -/
theorem WhereClause.exists_resolve_ofWord {s : Schema} {f : Field}
    (hfield : s.field? f.name = some f) (htype : f.type = .integer) (op : Operator) (b : Word) :
    ∃ conditions, (WhereClause.mk [(f.name, .ofWord op b)]).resolve s = .ok conditions := by
  rw [WhereClause.exists_resolve_eq_ok_iff]
  refine ⟨by simp, fun entry hentry => ?_⟩
  rw [List.mem_singleton.1 hentry]
  refine ⟨?_, ?_, ?_⟩
  · simp [checkField, hfield, htype, FieldType.IsNumeric]
  · unfold checkNumber
    split <;> rfl
  · cases op <;> exact ⟨_, rfl⟩

/-! ### The whole way -/

/-- An integer `a`, as a number or as its decimal text, under a field of integers.  The row holds
the nearest number of at most 53 significant bits, in the JSON object too, or null where no word
holds that number, which is so for the 512 largest integers; and a condition with an integer `b` as
operand finds the row when it is not null and the rounded numbers compare.  Rounding keeps exactly
the integers that need at most 53 significant bits, among them all up to `2 ^ 53`, so for these the
value, its JSON and the comparisons are those of `a` and `b` themselves. -/
theorem integer_through_query (s : Schema) (f : Field) (hfield : s.field? f.name = some f)
    (htype : f.type = .integer) (a b : Word) (value : Json)
    (hvalue : value = .number (.integer (.ofWord a)) ∨ value = .string (Digits.signedText a.val))
    (op : Operator) :
    let item : Json := .object [(f.display, value)]
    let row := rowOf s item
    let kept := Word.ofInt? (nearestInt a.val)
    row.get? f.name = some (kept.elim .null .integer) ∧
    (∃ entries, row.toJson = .object entries ∧
      entries.lookup f.name = some (kept.elim .null fun w => .number (.integer (.ofWord w)))) ∧
    (do
      let clause ← WhereClause.ofJson
        (.object [(f.name, .object [(op.name, .number (.integer (.ofWord b)))])])
      queryItems [item] s clause) =
        .ok (if kept.isSome ∧ op.Compares (nearestInt a.val) (nearestInt b.val) then [row]
          else []) ∧
    (kept = none ↔ 9223372036854775296 ≤ a.val) ∧
    (∀ n : Word, FitsSignificand (nearestInt n.val) ∧
      (∀ m, FitsSignificand m → (n.val - nearestInt n.val).natAbs ≤ (n.val - m).natAbs) ∧
      (Word.ofInt? (nearestInt n.val) = some n ↔ FitsSignificand n.val) ∧
      (nearestInt n.val = n.val ↔ FitsSignificand n.val) ∧
      (n.val.natAbs ≤ 2 ^ 53 → FitsSignificand n.val)) := by
  intro item row kept
  have hcell : row.get? f.name = some (kept.elim .null .integer) := by
    show ((RawRecord.ofJson item).coerce s).get? f.name = _
    rw [RawRecord.get?_coerce, hfield, Option.map_some, RawRecord.coerceField,
      RawRecord.get?_ofJson_singleton, htype]
    exact congrArg some (Scalar.coerce_integer_ofJson hvalue)
  refine ⟨hcell, ?_, ?_, a.ofInt?_nearestInt_eq_none_iff, fun n =>
    ⟨fitsSignificand_nearestInt n.val, fun _ hm => nearestInt_nearest hm, ?_,
      nearestInt_eq_self_iff, fitsSignificand_of_natAbs_le⟩⟩
  · obtain ⟨entries, hrow, hlookup⟩ := row.lookup_toJson f.name
    refine ⟨entries, hrow, ?_⟩
    rw [hlookup, hcell]
    cases kept <;> rfl
  · have hclause := WhereClause.ofJson_singleton f.name (.ofWord op b)
    obtain ⟨conditions, hresolve⟩ := WhereClause.exists_resolve_ofWord hfield htype op b
    have hmeets : (WhereClause.mk [(f.name, .ofWord op b)]).Meets row ↔
        kept.isSome ∧ op.Compares (nearestInt a.val) (nearestInt b.val) := by
      unfold WhereClause.Meets
      rw [List.forall_mem_singleton, hcell]
      cases hkept : kept with
      | none => simpa using Request.not_meets_ofWord_null op b
      | some w =>
        have hw : nearestInt w.val = nearestInt a.val := by
          rw [Word.val_of_ofInt? hkept, nearestInt_nearestInt]
        simpa [hw] using Request.meets_ofWord_iff op w b
    show (WhereClause.ofJson (.object [(f.name, (Request.ofWord op b).toJson)]) >>= _) = _
    rw [hclause]
    show queryItems [item] s ⟨[(f.name, .ofWord op b)]⟩ = _
    rw [queryItems_of_resolve hresolve]
    show Except.ok ([row].filter _) = _
    by_cases h : kept.isSome ∧ op.Compares (nearestInt a.val) (nearestInt b.val)
    · rw [if_pos h, List.filter_cons_of_pos (by simpa using hmeets.2 h), List.filter_nil]
    · rw [if_neg h, List.filter_cons_of_neg (by simpa using mt hmeets.1 h), List.filter_nil]
  · rw [← nearestInt_eq_self_iff]
    constructor
    · exact fun h => (Word.val_of_ofInt? h).symm
    · intro h
      rw [h, n.ofInt?_val]

/-- The text of `2 ^ 53 + 1` under a field of integers: the row holds `2 ^ 53`, and the condition to
be equal to `2 ^ 53` finds it. -/
theorem integer_through_query_beyond_significand :
    let f : Field := ⟨"Count", "count", .integer, []⟩
    let s : Schema := ⟨[⟨"Name", "name", .text, []⟩, f]⟩
    let a : Word := ⟨9007199254740993, by decide, by decide⟩
    let b : Word := ⟨9007199254740992, by decide, by decide⟩
    let value : Json := .string (Digits.signedText a.val)
    let row := rowOf s (.object [(f.display, value)])
    s.field? f.name = some f ∧ f.type = .integer ∧
      (value = .number (.integer (.ofWord a)) ∨ value = .string (Digits.signedText a.val)) ∧
      row.get? "count" = some (.integer b) ∧
      queryItems [.object [(f.display, value)]] s ⟨[("count", .ofWord .eq b)]⟩ = .ok [row] := by
  intro f s a b value row
  have hfield : s.field? f.name = some f := by decide
  have hvalue : value = .number (.integer (.ofWord a)) ∨
      value = .string (Digits.signedText a.val) := .inr rfl
  obtain ⟨hcell, -, hquery, -, -⟩ := integer_through_query s f hfield rfl a b value hvalue .eq
  have hkept : Word.ofInt? (nearestInt a.val) = some b := by decide +kernel
  have hcompares : Operator.eq.Compares (nearestInt a.val) (nearestInt b.val) := by decide +kernel
  refine ⟨hfield, rfl, hvalue, ?_, ?_⟩
  · rw [hkept] at hcell
    exact hcell
  · rw [hkept, if_pos ⟨rfl, hcompares⟩] at hquery
    exact hquery

/-- Not every integer of 64 bits survives: under a field of integers `2 ^ 53 + 1` becomes another
number, and a condition to be equal to that number finds its row. -/
theorem integer_not_kept :
    let s : Schema := ⟨[⟨"n", "n", .integer, []⟩]⟩
    let a : Word := ⟨9007199254740993, by decide, by decide⟩
    let b : Word := ⟨9007199254740992, by decide, by decide⟩
    let item : Json := .object [("n", .number (.integer (.ofWord a)))]
    a ≠ b ∧ (rowOf s item).get? "n" ≠ some (.integer a) ∧
      (rowOf s item).get? "n" = some (.integer b) ∧
      ∃ rows, queryItems [item] s ⟨[("n", .ofWord .eq b)]⟩ = .ok rows ∧ rows ≠ [] := by
  refine ⟨by decide, by decide +kernel, by decide +kernel, _, rfl, ?_⟩
  decide +kernel

end LooseRecords
