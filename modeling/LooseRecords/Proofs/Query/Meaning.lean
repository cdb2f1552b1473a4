import LooseRecords.Proofs.Checks
import LooseRecords.Query

/-!
# What a query answers

A query narrows its rows step by step, one condition after the other, after its clause has passed
three rounds of checks.  Its answer can be said without any of these steps: the rows that meet every
entry of the clause at once, in the order of the data.

`Request.Meets` and `WhereClause.Meets` say what an entry and a clause ask of a row, directly on the
operators and operands of the clause.  `resolve_eq_ok_iff` describes the three rounds by what they
ask of each entry on its own, `narrow_eq_filter` turns the narrowing into one selection, and
`queryItems_meaning` puts both together.
-/

namespace LooseRecords

/-! ### What a clause asks of a row -/

/-- Whether a value compares with the operand of a request as its operator says. -/
def Request.Meets (q : Request) (value : TypedValue) : Prop :=
  match q.operator with
  | .eq => Condition.EqualsOperand value (.ofJson q.operand)
  | .gt => ∃ x ∈ q.number?, ∃ y ∈ value.toNumber?, x < y
  | .lt => ∃ x ∈ q.number?, ∃ y ∈ value.toNumber?, y < x

instance (q : Request) (value : TypedValue) : Decidable (q.Meets value) := by
  unfold Request.Meets
  split <;> infer_instance

/-- Whether a row meets all entries of a clause at once. -/
def WhereClause.Meets (c : WhereClause) (r : TypedRecord) : Prop :=
  ∀ entry ∈ c.requests, ∃ value ∈ r.get? entry.1, entry.2.Meets value

instance (c : WhereClause) (r : TypedRecord) : Decidable (c.Meets r) :=
  inferInstanceAs (Decidable (∀ entry ∈ c.requests, ∃ value ∈ r.get? entry.1, entry.2.Meets value))

/-! ### Resolving a clause -/

namespace WhereClause

/-- A number is the numeric operand of an entry exactly when the operand is that number. -/
theorem numericOperand_eq_ok_iff {entry : String × Request} {x : Binary64} :
    numericOperand entry = .ok x ↔ entry.2.number? = some x := by
  unfold numericOperand
  cases entry.2.number? <;> simp

/-- A scalar operand is the scalar of the operand. -/
theorem eq_ofJson_of_scalarOperand {entry : String × Request} {operand : Scalar}
    (h : scalarOperand entry = .ok operand) : operand = .ofJson entry.2.operand := by
  unfold scalarOperand at h
  split at h
  · cases h
  · cases h
  · simpa [eq_comm] using h

/-- The condition that a request resolves to holds of the rows that meet the request. -/
theorem holds_of_resolveRequest {entry : String × Request} {k : FieldCondition}
    (h : resolveRequest entry = .ok k) (r : TypedRecord) :
    k.Holds r ↔ ∃ value ∈ r.get? entry.1, entry.2.Meets value := by
  unfold FieldCondition.Holds Request.Meets
  cases hop : entry.2.operator with
  | eq =>
    simp only [resolveRequest, hop] at h
    obtain ⟨condition, hcondition, hk⟩ := bind_eq_ok_iff.1 h
    obtain ⟨operand, hoperand, rfl⟩ := map_eq_ok_iff.1 hcondition
    cases hk
    rw [eq_ofJson_of_scalarOperand hoperand]
    rfl
  | gt =>
    simp only [resolveRequest, hop] at h
    obtain ⟨condition, hcondition, hk⟩ := bind_eq_ok_iff.1 h
    obtain ⟨x, hx, rfl⟩ := map_eq_ok_iff.1 hcondition
    cases hk
    simp [Condition.Matches, numericOperand_eq_ok_iff.1 hx]
  | lt =>
    simp only [resolveRequest, hop] at h
    obtain ⟨condition, hcondition, hk⟩ := bind_eq_ok_iff.1 h
    obtain ⟨x, hx, rfl⟩ := map_eq_ok_iff.1 hcondition
    cases hk
    simp [Condition.Matches, numericOperand_eq_ok_iff.1 hx]

/-- The condition that a request resolves to is on its field and has its operator. -/
theorem field_of_resolveRequest {entry : String × Request} {k : FieldCondition}
    (h : resolveRequest entry = .ok k) :
    k.field = entry.1 ∧ k.condition.operator = entry.2.operator := by
  cases hop : entry.2.operator with
  | eq | gt | lt =>
    simp only [resolveRequest, hop] at h
    obtain ⟨condition, hcondition, hk⟩ := bind_eq_ok_iff.1 h
    obtain ⟨operand, -, rfl⟩ := map_eq_ok_iff.1 hcondition
    cases hk
    exact ⟨rfl, rfl⟩

/-- The check of a field passes where there is one and its type fits the operator. -/
theorem checkField_eq_ok_iff_field? {s : Schema} {entry : String × Request} :
    checkField s entry = .ok () ↔
      ∃ f, s.field? entry.1 = some f ∧ (entry.2.operator.NeedsNumber → f.type.IsNumeric) := by
  unfold checkField
  cases s.field? entry.1 with
  | none => simp
  | some f =>
    dsimp only
    split
    · next h => simp [h]
    · next h => simpa using h

/-- A clause resolves to conditions exactly when it has an entry, every entry passes the two rounds
of checks on its own, and each condition is that of the entry in its place. -/
theorem resolve_eq_ok_iff {c : WhereClause} {s : Schema} {conditions : List FieldCondition} :
    c.resolve s = .ok conditions ↔
      c.requests ≠ [] ∧ (∀ entry ∈ c.requests, checkField s entry = .ok ()) ∧
        (∀ entry ∈ c.requests, checkNumber entry = .ok ()) ∧
        List.Forall₂ (fun entry k => resolveRequest entry = .ok k) c.requests conditions := by
  unfold resolve
  by_cases hempty : c.requests = []
  · simp [hempty]
  · rw [if_neg (by simpa using hempty), bind_eq_ok_iff]
    constructor
    · rintro ⟨⟨⟩, hfields, h⟩
      obtain ⟨⟨⟩, hnumbers, h⟩ := bind_eq_ok_iff.1 h
      exact ⟨hempty, forM_eq_ok_iff.1 hfields, forM_eq_ok_iff.1 hnumbers, mapM_eq_ok_iff.1 h⟩
    · rintro ⟨-, hfields, hnumbers, h⟩
      refine ⟨(), forM_eq_ok_iff.2 hfields, bind_eq_ok_iff.2 ⟨(), forM_eq_ok_iff.2 hnumbers, ?_⟩⟩
      exact mapM_eq_ok_iff.2 h

/-- Whether a clause resolves depends on its entries one by one, not on their order. -/
theorem exists_resolve_eq_ok_iff {c : WhereClause} {s : Schema} :
    (∃ conditions, c.resolve s = .ok conditions) ↔
      c.requests ≠ [] ∧ ∀ entry ∈ c.requests, checkField s entry = .ok () ∧
        checkNumber entry = .ok () ∧ ∃ k, resolveRequest entry = .ok k := by
  constructor
  · rintro ⟨conditions, h⟩
    obtain ⟨hne, hfields, hnumbers, hall⟩ := resolve_eq_ok_iff.1 h
    refine ⟨hne, fun entry hentry => ⟨hfields entry hentry, hnumbers entry hentry, ?_⟩⟩
    exact exists_mapM_eq_ok_iff.1 ⟨conditions, mapM_eq_ok_iff.2 hall⟩ entry hentry
  · rintro ⟨hne, h⟩
    obtain ⟨conditions, hall⟩ := exists_mapM_eq_ok_iff.2 fun entry hentry => (h entry hentry).2.2
    exact ⟨conditions, resolve_eq_ok_iff.2 ⟨hne, fun entry hentry => (h entry hentry).1,
      fun entry hentry => (h entry hentry).2.1, mapM_eq_ok_iff.1 hall⟩⟩

/-- All conditions of a resolved clause hold of the rows that meet the clause. -/
theorem forall_holds_iff_meets {c : WhereClause} {s : Schema} {conditions : List FieldCondition}
    (h : c.resolve s = .ok conditions) (r : TypedRecord) :
    (∀ k ∈ conditions, k.Holds r) ↔ c.Meets r := by
  obtain ⟨-, -, -, hall⟩ := resolve_eq_ok_iff.1 h
  unfold Meets
  generalize c.requests = requests at hall
  clear h
  induction hall with
  | nil => simp
  | cons hhead _ ih =>
    rw [List.forall_mem_cons, List.forall_mem_cons, ih, holds_of_resolveRequest hhead]

/-- Clauses with the same entries ask the same of a row. -/
theorem meets_congr_perm {c c' : WhereClause} (hperm : c'.requests.Perm c.requests)
    (r : TypedRecord) : c'.Meets r ↔ c.Meets r :=
  ⟨fun h entry hentry => h entry (hperm.mem_iff.2 hentry),
    fun h entry hentry => h entry (hperm.mem_iff.1 hentry)⟩

/-- Clauses with the same entries resolve alike. -/
theorem exists_resolve_congr_perm {c c' : WhereClause} (hperm : c'.requests.Perm c.requests)
    (s : Schema) :
    (∃ conditions, c'.resolve s = .ok conditions) ↔ ∃ conditions, c.resolve s = .ok conditions := by
  have hempty : c'.requests ≠ [] ↔ c.requests ≠ [] := not_congr
    ⟨fun h => List.nil_perm.1 (h ▸ hperm), fun h => List.perm_nil.1 (h ▸ hperm)⟩
  rw [exists_resolve_eq_ok_iff, exists_resolve_eq_ok_iff, hempty]
  simp only [hperm.mem_iff]

end WhereClause

/-! ### Narrowing and querying -/

/-- Narrowing by one condition after the other selects the records of which all conditions hold. -/
theorem narrow_eq_filter (records : List TypedRecord) (conditions : List FieldCondition) :
    narrow records conditions = records.filter fun r => ∀ k ∈ conditions, k.Holds r := by
  unfold narrow
  induction conditions generalizing records with
  | nil => simp
  | cons k rest ih =>
    rw [List.foldl_cons, ih, FieldCondition.select, List.filter_filter]
    simp [Bool.and_comm]

/-- On any records a clause that resolves is answered by the rows that meet it. -/
theorem query_of_resolve {c : WhereClause} {s : Schema} {conditions : List FieldCondition}
    (h : c.resolve s = .ok conditions) (records : List RawRecord) :
    query records s c = .ok ((coerceAll records s).filter fun r => c.Meets r) := by
  have hquery : query records s c = .ok (narrow (coerceAll records s) conditions) := by
    simp [query, h, bind, Except.bind]
  rw [hquery, narrow_eq_filter]
  simp only [WhereClause.forall_holds_iff_meets h]

/-- The answer to a clause on the items of a JSON array under a given schema. -/
def queryItems (items : List Json) (s : Schema) (c : WhereClause) :
    Except RequestError (List TypedRecord) := do
  let records ← readRecords (.array items)
  query records s c

/-- The row of an item: an item that is not an object has the row of the empty record. -/
def rowOf (s : Schema) (item : Json) : TypedRecord :=
  (RawRecord.ofJson item).coerce s

/-- An item that is not an object keeps its place with the row of the empty record. -/
theorem rowOf_of_kind_ne_object {item : Json} (h : item.kind ≠ .object) (s : Schema) :
    rowOf s item = RawRecord.empty.coerce s := by
  cases item with
  | object entries => exact absurd rfl h
  | _ => rfl

theorem coerceAll_map_ofJson (items : List Json) (s : Schema) :
    coerceAll (items.map RawRecord.ofJson) s = items.map (rowOf s) := by
  simp [coerceAll, rowOf]

/-- A clause that resolves is answered by the rows that meet it. -/
theorem queryItems_of_resolve {c : WhereClause} {s : Schema} {conditions : List FieldCondition}
    (h : c.resolve s = .ok conditions) (items : List Json) :
    queryItems items s c = .ok ((items.map (rowOf s)).filter fun r => c.Meets r) := by
  show query (items.map RawRecord.ofJson) s c = _
  rw [query_of_resolve h, coerceAll_map_ofJson]

/-- A clause that does not resolve is rejected whatever the items are. -/
theorem queryItems_of_resolve_error {c : WhereClause} {s : Schema} {e : RequestError}
    (h : c.resolve s = .error e) (items : List Json) : queryItems items s c = .error e := by
  simp [queryItems, readRecords, query, h, bind, Except.bind]

/-- An answer is given exactly when the clause resolves, and then it is the rows that meet it. -/
theorem queryItems_eq_ok_iff {items : List Json} {s : Schema} {c : WhereClause}
    {rows : List TypedRecord} :
    queryItems items s c = .ok rows ↔ (∃ conditions, c.resolve s = .ok conditions) ∧
      rows = (items.map (rowOf s)).filter fun r => c.Meets r := by
  cases h : c.resolve s with
  | error e => simp [queryItems_of_resolve_error h]
  | ok conditions => simp [queryItems_of_resolve h, eq_comm]

/-- The meaning of a query on the items of a JSON array.  A clause that resolves is answered by
exactly the rows of the items that meet all its entries at once, in the order of the items, where an
item that is not an object has the row of the empty record.  So an answer is a sublist of the rows
of all items, the answer on two arrays in a row consists of the answers on both, and the order of
the entries of the clause makes no difference to whether there is an answer and to what it is. -/
theorem queryItems_meaning (items more : List Json) (s : Schema) (c c' : WhereClause)
    (hperm : c'.requests.Perm c.requests) :
    (∀ conditions, c.resolve s = .ok conditions →
      queryItems items s c = .ok ((items.map (rowOf s)).filter fun r => c.Meets r)) ∧
    (∀ item ∈ items, item.kind ≠ .object → rowOf s item = RawRecord.empty.coerce s) ∧
    (∀ rows, queryItems items s c = .ok rows →
      rows.Sublist (coerceAll (items.map RawRecord.ofJson) s)) ∧
    (queryItems (items ++ more) s c = do
      let first ← queryItems items s c
      let second ← queryItems more s c
      .ok (first ++ second)) ∧
    ∀ rows, queryItems items s c' = .ok rows ↔ queryItems items s c = .ok rows := by
  refine ⟨fun conditions h => queryItems_of_resolve h items,
    fun item _ hkind => rowOf_of_kind_ne_object hkind s, fun rows h => ?_, ?_, fun rows => ?_⟩
  · rw [coerceAll_map_ofJson, (queryItems_eq_ok_iff.1 h).2]
    exact List.filter_sublist
  · cases h : c.resolve s with
    | error e => simp [queryItems_of_resolve_error h, bind, Except.bind]
    | ok conditions => simp [queryItems_of_resolve h, bind, Except.bind]
  · rw [queryItems_eq_ok_iff, queryItems_eq_ok_iff, WhereClause.exists_resolve_congr_perm hperm]
    simp only [WhereClause.meets_congr_perm hperm]

/-- Two conditions on three items, one of them no object, asked in either order: of the rows only
the one that meets both is answered. -/
theorem queryItems_meaning_two_entries :
    let s : Schema := ⟨[⟨"Age", "age", .integer, []⟩, ⟨"Team", "team", .text, []⟩]⟩
    let items : List Json :=
      [.object [("Age", .string " 36 "), ("Team", .string "red")], .bool true,
        .object [("Team", .string "red"), ("Age", .number (.integer ⟨17, by decide, by decide⟩))]]
    let older : String × Request :=
      ("age", ⟨.gt, .number (.integer ⟨18, by decide, by decide⟩)⟩)
    let red : String × Request := ("team", ⟨.eq, .string "red"⟩)
    let c : WhereClause := ⟨[older, red]⟩
    let c' : WhereClause := ⟨[red, older]⟩
    let row : TypedRecord :=
      ⟨[("age", .integer ⟨36, by decide, by decide⟩), ("team", .text "red")]⟩
    c'.requests.Perm c.requests ∧ (∃ conditions, c.resolve s = .ok conditions) ∧
      queryItems items s c' = .ok [row] := by
  intro s items older red c c' row
  have hperm : c'.requests.Perm c.requests := .swap older red []
  have hresolve : ∃ conditions, c.resolve s = .ok conditions := ⟨_, rfl⟩
  refine ⟨hperm, hresolve, ?_⟩
  obtain ⟨conditions, h⟩ := hresolve
  obtain ⟨hanswer, -, -, -, horder⟩ := queryItems_meaning items [] s c c' hperm
  have hrows : (items.map (rowOf s)).filter (fun r => c.Meets r) = [row] := by decide +kernel
  rw [horder, hanswer conditions h, hrows]

end LooseRecords
