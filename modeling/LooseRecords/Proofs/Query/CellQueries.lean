import LooseRecords.Proofs.Coercion.Dates
import LooseRecords.Proofs.Coercion.Values
import LooseRecords.Proofs.Query.Rejections

/-!
# Finding a row by one of its cells

The JSON value of a cell can be taken as operand: a value that came out of coercion is equal to its
own JSON value, read back as a scalar.  That is a matter of each kind of value.  Null is equal to
null, integers and other numbers to themselves as floating-point numbers, texts and truth values to
themselves; a category is a settled token, so that normalizing the operand does not change it; and
the text of a date in the years 0 to 9999 is read as the same instant.
-/

namespace LooseRecords

/-- The JSON value of a cell is a scalar. -/
theorem TypedValue.kind_toJson (value : TypedValue) :
    value.toJson.kind ≠ .array ∧ value.toJson.kind ≠ .object := by
  cases value with
  | float x => cases x <;> simp [toJson, Json.Number.ofBinary64?, Json.kind]
  | _ => simp [toJson, Json.kind]

/-- A value that coercion yields is equal to its own JSON value as operand. -/
theorem FieldType.Yields.equalsOperand {type : FieldType} {value : TypedValue}
    (h : type.Yields value)
    (hyear : ∀ t, value = .date t → 0 ≤ t.year ∧ t.year ≤ 9999) :
    Condition.EqualsOperand value (.ofJson value.toJson) := by
  cases h with
  | null => trivial
  | text hblank => rfl
  | @integer n hfits =>
    have hn : n.val.natAbs ≤ 2 ^ 64 := Nat.le_trans n.natAbs_val_le (by decide)
    exact (equals_ofInt_iff hn hn).2 rfl
  | float x => rfl
  | date t =>
    show Instant.ofText? t.text = some t
    rw [t.ofText?_text, if_pos (hyear t rfl)]
  | boolean b => rfl
  | @option s hblank hsettled => exact congrArg some hsettled

/-- The condition to be equal to a scalar resolves on every field. -/
theorem WhereClause.exists_resolve_eq {s : Schema} (hnodup : s.names.Nodup) {f : Field}
    (hf : f ∈ s.fields) {operand : Json}
    (hkind : operand.kind ≠ .array ∧ operand.kind ≠ .object) :
    ∃ conditions, (WhereClause.mk [(f.name, ⟨.eq, operand⟩)]).resolve s = .ok conditions := by
  rw [WhereClause.exists_resolve_iff_fits hnodup]
  refine ⟨by simp, fun entry hentry => ?_⟩
  rw [List.mem_singleton.1 hentry]
  exact ⟨⟨f, hf, rfl, by simp [Operator.NeedsNumber]⟩, by simp [Request.HasNumber,
    Operator.NeedsNumber], fun _ => hkind⟩

/-- Every row is found by each of its cells.  Under a valid schema the JSON object of a row has a
value under the name of a field, and with this value as operand the condition to be equal to it is
read, resolves, and is met by the row, dates outside the years 0 to 9999 apart. -/
theorem query_by_cell (records : List RawRecord) (s : Schema) (hvalid : s.validate = .ok ())
    (i : Nat) (row : TypedRecord) (hrow : (coerceAll records s)[i]? = some row) (f : Field)
    (hf : f ∈ s.fields)
    (hyear : ∀ t, row.get? f.name = some (.date t) → 0 ≤ t.year ∧ t.year ≤ 9999) :
    ∃ entries value c rows, row.toJson = .object entries ∧ entries.lookup f.name = some value ∧
      WhereClause.ofJson (.object [(f.name, .object [("eq", value)])]) = .ok c ∧
      (∃ conditions, c.resolve s = .ok conditions) ∧
      query records s c = .ok rows ∧ row ∈ rows := by
  have hnodup : s.names.Nodup := (Schema.validate_eq_ok_iff.1 hvalid).nodup_names
  have hmem : row ∈ coerceAll records s := List.mem_of_getElem? hrow
  obtain ⟨r, -, rfl⟩ := List.mem_map.1 hmem
  have hcell : (r.coerce s).get? f.name = some (r.coerceField f) := by
    rw [RawRecord.get?_coerce, Schema.field?_of_mem hnodup hf, Option.map_some]
  obtain ⟨entries, hentries, hlookup⟩ := (r.coerce s).lookup_toJson f.name
  rw [hcell, Option.map_some] at hlookup
  have hread := WhereClause.ofJson_singleton f.name ⟨.eq, (r.coerceField f).toJson⟩
  obtain ⟨conditions, hresolve⟩ :=
    WhereClause.exists_resolve_eq hnodup hf (r.coerceField f).kind_toJson
  refine ⟨entries, _, _, _, hentries, hlookup, hread, ⟨conditions, hresolve⟩,
    query_of_resolve hresolve records, ?_⟩
  have hequal : Condition.EqualsOperand (r.coerceField f) (.ofJson (r.coerceField f).toJson) := by
    refine (r.yields_coerceField f).equalsOperand fun t ht => hyear t ?_
    rw [hcell, ht]
  rw [List.mem_filter]
  refine ⟨hmem, ?_⟩
  simp only [decide_eq_true_eq, WhereClause.Meets, List.forall_mem_singleton, hcell]
  exact ⟨_, rfl, hequal⟩

/-- The second of two rows holds a leap second, which an offset leads to; it is found by what is
written for it. -/
theorem query_by_cell_leap_second :
    let f : Field := ⟨"Seen", "seen", .date, []⟩
    let s : Schema := ⟨[⟨"Kind", "kind", .option, ["a"]⟩, f]⟩
    let records : List RawRecord := [.empty,
      .ofJson (.object [("Seen", .string "2016-12-31T18:59:60.1239-05:00"), ("Kind", .string "A")])]
    let t : Instant := ⟨1483228799, 123, true, by decide, by decide, by decide⟩
    let row : TypedRecord := ⟨[("kind", .option "a"), ("seen", .date t)]⟩
    s.validate = .ok () ∧ (coerceAll records s)[1]? = some row ∧ f ∈ s.fields ∧
      (∀ t', row.get? f.name = some (.date t') → 0 ≤ t'.year ∧ t'.year ≤ 9999) ∧
      t.text = "2016-12-31T23:59:60.123Z" ∧
      ∃ c rows, WhereClause.ofJson (.object [("seen", .object [("eq", .string t.text)])]) = .ok c ∧
        query records s c = .ok rows ∧ row ∈ rows := by
  intro f s records t row
  have hvalid : s.validate = .ok () :=
    Schema.validate_eq_ok_iff.2 ⟨by decide +kernel, by decide, by decide, by decide⟩
  have hrow : (coerceAll records s)[1]? = some row := by decide +kernel
  have hf : f ∈ s.fields := by decide
  have hyear : ∀ t', row.get? f.name = some (.date t') → 0 ≤ t'.year ∧ t'.year ≤ 9999 := by
    rintro t' ⟨⟩
    exact t.year_mem_iff_second.2 (by decide)
  refine ⟨hvalid, hrow, hf, hyear, by decide +kernel, ?_⟩
  obtain ⟨entries, value, c, rows, hentries, hlookup, hread, -, hquery, hmem⟩ :=
    query_by_cell records s hvalid 1 row hrow f hf hyear
  cases hentries
  cases hlookup
  exact ⟨c, rows, hread, hquery, hmem⟩

end LooseRecords
