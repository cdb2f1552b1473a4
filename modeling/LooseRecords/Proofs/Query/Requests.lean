import LooseRecords.Proofs.Checks
import LooseRecords.WhereClause

/-!
# How conditions and clauses are read

Exactly the JSON objects with one key, which is the name of an operator, are read as conditions, and
a clause is an object with at least one entry and a condition in each.  `WhereClause.toJson` writes
a clause back, so that reading succeeds exactly on what is written.

What is no condition has a fault that `ConditionFault.Of` describes, and a clause is turned down for
its first entry that holds no condition.
-/

namespace LooseRecords

theorem Operator.ofName?_name (op : Operator) : Operator.ofName? op.name = some op := by
  cases op <;> rfl

/-- An operator is found under its own name only. -/
theorem Operator.ofName?_eq_some_iff {name : String} {op : Operator} :
    Operator.ofName? name = some op ↔ name = op.name := by
  constructor
  · intro h
    unfold ofName? at h
    split at h
    · next hname =>
      cases h
      exact hname
    · split at h
      · next hname =>
        cases h
        exact hname
      · split at h
        · next hname =>
          cases h
          exact hname
        · cases h
  · rintro rfl
    exact op.ofName?_name

theorem Operator.ofName?_eq_none_iff {name : String} :
    Operator.ofName? name = none ↔ ∀ op : Operator, name ≠ op.name := by
  simp only [Option.eq_none_iff_forall_ne_some, ne_eq, ofName?_eq_some_iff]

/-! ### Conditions -/

/-- Whether a JSON value is a condition: an object whose only key is the name of an operator. -/
def Json.IsCondition (value : Json) : Prop :=
  ∃ (op : Operator) (operand : Json), value = .object [(op.name, operand)]

/-- The faults of JSON values that are no conditions. -/
inductive ConditionFault.Of : Json → ConditionFault → Prop
  | notOneKey {entries : List (String × Json)} (h : entries.length ≠ 1) :
      Of (.object entries) .notOneKey
  | unknownKey {name : String} {operand : Json} (h : ∀ op : Operator, name ≠ op.name) :
      Of (.object [(name, operand)]) (.unknownOperator name)
  | unknownWord {name : String} (h : ∀ op : Operator, name ≠ op.name) :
      Of (.string name) (.unknownOperator name)
  | noOperand (op : Operator) : Of (.string op.name) .noOperand
  | notAnObject {value : Json} (hobject : value.kind ≠ .object) (hword : value.kind ≠ .string) :
      Of value (.notAnObject value.found)

namespace Request

/-- A value is read as a condition exactly when it is how the condition is written. -/
theorem ofJson_eq_ok_iff {value : Json} {q : Request} :
    ofJson value = .ok q ↔ value = q.toJson := by
  constructor
  · intro h
    unfold ofJson at h
    split at h
    · next name operand =>
      split at h
      · next op hname =>
        cases h
        rw [Operator.ofName?_eq_some_iff.1 hname]
        rfl
      · cases h
    · cases h
    · split at h <;> cases h
    · cases h
  · rintro rfl
    obtain ⟨op, operand⟩ := q
    simp [toJson, ofJson, op.ofName?_name]

/-- A value is turned down as a condition exactly with the fault that it has. -/
theorem ofJson_eq_error_iff {value : Json} {fault : ConditionFault} :
    ofJson value = .error fault ↔ fault.Of value := by
  constructor
  · intro h
    unfold ofJson at h
    split at h
    · next name operand =>
      split at h
      · cases h
      · next hname =>
        cases h
        exact .unknownKey (Operator.ofName?_eq_none_iff.1 hname)
    · next entries hone =>
      cases h
      refine .notOneKey fun hlength => ?_
      obtain ⟨⟨name, operand⟩, rfl⟩ := List.length_eq_one_iff.1 hlength
      exact hone name operand rfl
    · next name =>
      split at h
      · next op hname =>
        cases h
        rw [Operator.ofName?_eq_some_iff.1 hname]
        exact .noOperand op
      · next hname =>
        cases h
        exact .unknownWord (Operator.ofName?_eq_none_iff.1 hname)
    · next hobject hword =>
      cases h
      cases value with
      | object entries => exact absurd rfl (hobject entries)
      | string name => exact absurd rfl (hword name)
      | _ => exact .notAnObject (by simp [Json.kind]) (by simp [Json.kind])
  · intro h
    cases h with
    | @notOneKey entries h =>
      match entries with
      | [] => rfl
      | [entry] => exact absurd rfl h
      | _ :: _ :: _ => rfl
    | unknownKey h => simp [ofJson, Operator.ofName?_eq_none_iff.2 h]
    | unknownWord h => simp [ofJson, Operator.ofName?_eq_none_iff.2 h]
    | noOperand op => simp [ofJson, op.ofName?_name]
    | notAnObject hobject hword =>
      cases value with
      | object entries => exact absurd rfl hobject
      | string name => exact absurd rfl hword
      | _ => rfl

/-- A value is read as some condition exactly when it is one. -/
theorem exists_ofJson_eq_ok_iff {value : Json} :
    (∃ q, ofJson value = .ok q) ↔ value.IsCondition := by
  simp only [ofJson_eq_ok_iff]
  exact ⟨fun ⟨q, hq⟩ => ⟨q.operator, q.operand, hq⟩,
    fun ⟨op, operand, h⟩ => ⟨⟨op, operand⟩, h⟩⟩

end Request

/-! ### Clauses -/

namespace WhereClause

/-- The JSON object of a clause. -/
def toJson (c : WhereClause) : Json :=
  .object (c.requests.map fun (name, q) => (name, q.toJson))

/-- An entry is read as the request that it holds, under the same name. -/
theorem readRequest_eq_ok_iff {entry : String × Json} {request : String × Request} :
    readRequest entry = .ok request ↔ entry = (request.1, request.2.toJson) := by
  obtain ⟨name, value⟩ := entry
  obtain ⟨name', q⟩ := request
  rw [Prod.mk.injEq, ← Request.ofJson_eq_ok_iff]
  unfold readRequest
  cases Request.ofJson value <;> simp

/-- Entries without a condition are turned down with their name and the fault. -/
theorem readRequest_eq_error_iff {entry : String × Json} {e : RequestError} :
    readRequest entry = .error e ↔
      ∃ fault, fault.Of entry.2 ∧ e = .malformedCondition entry.1 fault := by
  simp only [← Request.ofJson_eq_error_iff]
  unfold readRequest
  cases Request.ofJson entry.2 <;> simp [eq_comm]

theorem exists_readRequest_eq_ok_iff {entry : String × Json} :
    (∃ request, readRequest entry = .ok request) ↔ entry.2.IsCondition := by
  rw [← Request.exists_ofJson_eq_ok_iff]
  unfold readRequest
  cases Request.ofJson entry.2 <;> simp

/-- Entries are read as requests exactly when they are how these are written. -/
theorem mapM_readRequest_eq_ok_iff {entries : List (String × Json)}
    {requests : List (String × Request)} :
    entries.mapM readRequest = .ok requests ↔
      entries = requests.map fun (name, q) => (name, q.toJson) := by
  rw [mapM_eq_ok_iff, ← List.forall₂_eq_eq_eq, List.forall₂_map_right_iff]
  simp only [readRequest_eq_ok_iff]

/-- A value is read as a clause exactly when it is how the clause is written, and the clause has an
entry. -/
theorem ofJson_eq_ok_iff {value : Json} {c : WhereClause} :
    ofJson value = .ok c ↔ value = c.toJson ∧ c.requests ≠ [] := by
  obtain ⟨requests⟩ := c
  unfold ofJson toJson
  split
  · cases requests <;> simp
  · next entries hne =>
    rw [bind_eq_ok_iff]
    constructor
    · rintro ⟨_, hread, h⟩
      cases h
      rw [mapM_readRequest_eq_ok_iff.1 hread]
      refine ⟨rfl, ?_⟩
      rintro rfl
      exact hne (mapM_readRequest_eq_ok_iff.1 hread)
    · rintro ⟨h, -⟩
      cases h
      exact ⟨requests, mapM_readRequest_eq_ok_iff.2 rfl, rfl⟩
  · next hobject =>
    simp only [reduceCtorEq, false_iff, not_and]
    rintro rfl
    exact absurd rfl (hobject _)

/-- Why a JSON value is no clause. -/
inductive Unreadable : Json → RequestError → Prop
  | notAnObject {value : Json} (h : value.kind ≠ .object) :
      Unreadable value (.malformedWhere value.kind)
  | noEntry : Unreadable (.object []) .emptyWhere
  | noCondition {entries : List (String × Json)} {entry : String × Json} {fault : ConditionFault}
      (hfirst : IsFirstWithout (fun x : String × Json => x.2.IsCondition) entries entry)
      (hfault : fault.Of entry.2) :
      Unreadable (.object entries) (.malformedCondition entry.1 fault)

/-- A value is turned down as a clause exactly for what keeps it from being one, and of several
entries without a condition for the first. -/
theorem ofJson_eq_error_iff {value : Json} {e : RequestError} :
    ofJson value = .error e ↔ Unreadable value e := by
  have hentries (entries : List (String × Json)) : entries.mapM readRequest = .error e ↔
      ∃ entry, IsFirstWithout (fun x => x.2.IsCondition) entries entry ∧
        ∃ fault, fault.Of entry.2 ∧ e = .malformedCondition entry.1 fault := by
    rw [mapM_eq_error_iff]
    simp only [exists_readRequest_eq_ok_iff, readRequest_eq_error_iff]
  constructor
  · intro h
    unfold ofJson at h
    split at h
    · cases h
      exact .noEntry
    · next entries _ =>
      rcases bind_eq_error_iff.1 h with hread | ⟨_, -, h⟩
      · obtain ⟨entry, hfirst, fault, hfault, rfl⟩ := (hentries entries).1 hread
        exact .noCondition hfirst hfault
      · cases h
    · next hobject =>
      cases h
      refine .notAnObject fun hkind => ?_
      cases value with
      | object entries => exact hobject entries rfl
      | _ => cases hkind
  · intro h
    cases h with
    | notAnObject hkind =>
      cases value with
      | object entries => exact absurd rfl hkind
      | _ => rfl
    | noEntry => rfl
    | @noCondition entries entry fault hfirst hfault =>
      have hread := (hentries entries).2 ⟨entry, hfirst, fault, hfault, rfl⟩
      cases entries with
      | nil => exact absurd hfirst not_isFirstWithout_nil
      | cons first rest => exact bind_eq_error_iff.2 (.inl hread)

/-- The JSON object of one condition is read as that condition. -/
theorem ofJson_singleton (name : String) (q : Request) :
    ofJson (.object [(name, q.toJson)]) = .ok ⟨[(name, q)]⟩ :=
  ofJson_eq_ok_iff.2 ⟨rfl, by simp⟩

end WhereClause
end LooseRecords
