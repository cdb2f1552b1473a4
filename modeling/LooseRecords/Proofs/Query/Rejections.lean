import LooseRecords.Proofs.Query.Meaning
import LooseRecords.Proofs.Query.Requests
import LooseRecords.Proofs.Schema.Inferred

/-!
# Why requests are turned down

A request on data passes through stages: the data, the shape of the clause, the fields of its
entries, the operands that have to be numbers, the other operands.  A stage goes through all entries
before the next one begins, so a fault of an earlier stage counts however late in the clause it
stands, and of several faults of one stage the first counts.

`Rejection` says what is wrong with a request and which error this gives, without any of these
passes.  `queryData_rejections` shows that the errors are exactly these, and that whatever has
nothing wrong with it is answered.
-/

namespace LooseRecords

/-! ### What an entry has to keep to -/

/-- Whether an entry names a field of the schema, and a field of numbers where its operator needs
one. -/
def FitsField (s : Schema) (entry : String × Request) : Prop :=
  ∃ f ∈ s.fields, f.name = entry.1 ∧ (entry.2.operator.NeedsNumber → f.type.IsNumeric)

/-- Whether the operand is a number where the operator needs one. -/
def Request.HasNumber (q : Request) : Prop :=
  q.operator.NeedsNumber → q.operand.kind = .number

instance (q : Request) : Decidable q.HasNumber :=
  inferInstanceAs (Decidable (q.operator.NeedsNumber → q.operand.kind = .number))

/-- Whether the operand is a scalar where it is to be equal to a value. -/
def Request.HasScalar (q : Request) : Prop :=
  q.operator = .eq → q.operand.kind ≠ .array ∧ q.operand.kind ≠ .object

namespace WhereClause

/-- Why a clause does not fit a schema. -/
inductive Unfit (s : Schema) (c : WhereClause) : RequestError → Prop
  | unknownField {entry : String × Request} (hfirst : IsFirstWithout (FitsField s) c.requests entry)
      (hname : entry.1 ∉ s.names) : Unfit s c (.unknownField entry.1 s.names)
  | nonNumericField {entry : String × Request} {f : Field}
      (hfirst : IsFirstWithout (FitsField s) c.requests entry) (hf : f ∈ s.fields)
      (hname : f.name = entry.1) :
      Unfit s c (.nonNumericField entry.1 entry.2.operator f.type)
  | nonNumericOperand {entry : String × Request} (hfields : ∀ x ∈ c.requests, FitsField s x)
      (hfirst : IsFirstWithout (fun x : String × Request => x.2.HasNumber) c.requests entry) :
      Unfit s c (.nonNumericOperand entry.1 entry.2.operator)
  | nonScalarOperand {entry : String × Request} (hfields : ∀ x ∈ c.requests, FitsField s x)
      (hnumbers : ∀ x ∈ c.requests, x.2.HasNumber)
      (hfirst : IsFirstWithout (fun x : String × Request => x.2.HasScalar) c.requests entry) :
      Unfit s c (.nonScalarOperand entry.1 entry.2.operand.kind)

/-- A clause is unfit for one of its entries. -/
theorem Unfit.requests_ne_nil {s : Schema} {c : WhereClause} {e : RequestError}
    (h : c.Unfit s e) : c.requests ≠ [] := by
  cases h with
  | unknownField hfirst | nonNumericField hfirst | nonNumericOperand _ hfirst
  | nonScalarOperand _ _ hfirst => exact List.ne_nil_of_mem hfirst.mem

/-! ### The three rounds of checks -/

/-- The check of a field passes exactly where the entry fits the schema. -/
theorem checkField_eq_ok_iff {s : Schema} (hnodup : s.names.Nodup) {entry : String × Request} :
    checkField s entry = .ok () ↔ FitsField s entry := by
  have hfits : FitsField s entry ↔ ∃ f, s.field? entry.1 = some f ∧
      (entry.2.operator.NeedsNumber → f.type.IsNumeric) := by
    simp only [FitsField, Schema.field?_eq_some_iff hnodup, and_assoc]
  rw [hfits, checkField_eq_ok_iff_field?]

/-- Where an entry does not fit the schema, the error says whether it names no field or one whose
type does not fit the operator. -/
theorem checkField_eq_error_iff {s : Schema} (hnodup : s.names.Nodup) {entry : String × Request}
    (hunfit : ¬FitsField s entry) {e : RequestError} :
    checkField s entry = .error e ↔
      (entry.1 ∉ s.names ∧ e = .unknownField entry.1 s.names) ∨
      ∃ f ∈ s.fields, f.name = entry.1 ∧
        e = .nonNumericField entry.1 entry.2.operator f.type := by
  have hrefused : checkField s entry ≠ .ok () := mt (checkField_eq_ok_iff hnodup).1 hunfit
  have hfield (e' : Field → RequestError) : (∃ f ∈ s.fields, f.name = entry.1 ∧ e = e' f) ↔
      ∃ f, s.field? entry.1 = some f ∧ e = e' f := by
    simp only [Schema.field?_eq_some_iff hnodup, and_assoc]
  rw [hfield, ← Schema.field?_eq_none_iff]
  unfold checkField at hrefused ⊢
  cases hfind : s.field? entry.1 with
  | none => simp [eq_comm]
  | some f =>
    rw [hfind] at hrefused
    dsimp only at hrefused ⊢
    split
    · simp [eq_comm]
    · next h => exact absurd (if_neg h) hrefused

/-- A request has a numeric operand exactly where its operand is a number. -/
theorem numericOperand_eq_ite (entry : String × Request) :
    ((numericOperand entry).map fun _ => ()) =
      if entry.2.operand.kind = .number then .ok ()
      else .error (.nonNumericOperand entry.1 entry.2.operator) := by
  unfold numericOperand Request.number?
  cases entry.2.operand <;> rfl

/-- The check of a number passes exactly where there is one or none is needed. -/
theorem checkNumber_eq_ite (entry : String × Request) :
    checkNumber entry = if entry.2.HasNumber then .ok ()
      else .error (.nonNumericOperand entry.1 entry.2.operator) := by
  unfold checkNumber Request.HasNumber
  rw [numericOperand_eq_ite]
  by_cases hneeds : entry.2.operator.NeedsNumber <;> simp [hneeds]

theorem checkNumber_eq_ok_iff {entry : String × Request} :
    checkNumber entry = .ok () ↔ entry.2.HasNumber := by
  rw [checkNumber_eq_ite]
  split <;> simp [*]

/-- In an entry whose operand is a number where one is needed, all that can be wrong is an operand
that has to be a scalar and is none. -/
theorem resolveRequest_cases {entry : String × Request} (hnumber : entry.2.HasNumber) :
    (entry.2.HasScalar ∧ ∃ k, resolveRequest entry = .ok k) ∨
      (¬entry.2.HasScalar ∧
        resolveRequest entry = .error (.nonScalarOperand entry.1 entry.2.operand.kind)) := by
  obtain ⟨name, op, operand⟩ := entry
  have hcompare (hop : op.NeedsNumber) : ∃ n, operand = .number n := by
    have hkind : operand.kind = .number := hnumber hop
    cases operand with
    | number n => exact ⟨n, rfl⟩
    | _ => cases hkind
  cases op with
  | eq =>
    cases operand with
    | array items => exact .inr ⟨by simp [Request.HasScalar, Json.kind], rfl⟩
    | object entries => exact .inr ⟨by simp [Request.HasScalar, Json.kind], rfl⟩
    | _ => exact .inl ⟨by simp [Request.HasScalar, Json.kind], _, rfl⟩
  | gt =>
    obtain ⟨n, rfl⟩ := hcompare (.inl rfl)
    exact .inl ⟨by simp [Request.HasScalar], _, rfl⟩
  | lt =>
    obtain ⟨n, rfl⟩ := hcompare (.inr rfl)
    exact .inl ⟨by simp [Request.HasScalar], _, rfl⟩

theorem exists_resolveRequest_eq_ok_iff {entry : String × Request}
    (hnumber : entry.2.HasNumber) :
    (∃ k, resolveRequest entry = .ok k) ↔ entry.2.HasScalar := by
  rcases resolveRequest_cases hnumber with ⟨hscalar, hok⟩ | ⟨hscalar, herror⟩
  · exact iff_of_true hok hscalar
  · simp [hscalar, herror]

/-! ### The stages one after the other -/

/-- A clause resolves exactly where each of its entries fits the schema and its own operator. -/
theorem exists_resolve_iff_fits {s : Schema} (hnodup : s.names.Nodup) {c : WhereClause} :
    (∃ conditions, c.resolve s = .ok conditions) ↔ c.requests ≠ [] ∧
      ∀ entry ∈ c.requests, FitsField s entry ∧ entry.2.HasNumber ∧ entry.2.HasScalar := by
  have hentry (entry : String × Request) :
      (checkField s entry = .ok () ∧ checkNumber entry = .ok () ∧
        ∃ k, resolveRequest entry = .ok k) ↔
      FitsField s entry ∧ entry.2.HasNumber ∧ entry.2.HasScalar := by
    rw [checkField_eq_ok_iff hnodup, checkNumber_eq_ok_iff]
    exact and_congr_right fun _ => and_congr_right exists_resolveRequest_eq_ok_iff
  rw [exists_resolve_eq_ok_iff]
  simp only [hentry]

/-- The first round fails at the first entry that does not fit the schema. -/
theorem forM_checkField_eq_error_iff {s : Schema} (hnodup : s.names.Nodup)
    {requests : List (String × Request)} {e : RequestError} :
    requests.forM (checkField s) = .error e ↔
      ∃ entry, IsFirstWithout (FitsField s) requests entry ∧
        ((entry.1 ∉ s.names ∧ e = .unknownField entry.1 s.names) ∨
          ∃ f ∈ s.fields, f.name = entry.1 ∧
            e = .nonNumericField entry.1 entry.2.operator f.type) := by
  rw [forM_eq_error_iff]
  refine exists_congr fun entry => ?_
  rw [IsFirstWithout.congr fun y _ => checkField_eq_ok_iff hnodup]
  exact and_congr_right fun hfirst => checkField_eq_error_iff hnodup hfirst.not

/-- The second round fails at the first entry that lacks the number it needs. -/
theorem forM_checkNumber_eq_error_iff {requests : List (String × Request)} {e : RequestError} :
    requests.forM checkNumber = .error e ↔
      ∃ entry, IsFirstWithout (fun x => x.2.HasNumber) requests entry ∧
        e = .nonNumericOperand entry.1 entry.2.operator := by
  rw [forM_eq_error_iff]
  refine exists_congr fun entry => ?_
  rw [IsFirstWithout.congr fun y _ => checkNumber_eq_ok_iff]
  refine and_congr_right fun hfirst => ?_
  rw [checkNumber_eq_ite, if_neg hfirst.not, Except.error.injEq, eq_comm]

/-- After the second round the third one fails at the first entry that lacks the scalar it needs. -/
theorem mapM_resolveRequest_eq_error_iff {requests : List (String × Request)}
    (hnumbers : ∀ x ∈ requests, x.2.HasNumber) {e : RequestError} :
    requests.mapM resolveRequest = .error e ↔
      ∃ entry, IsFirstWithout (fun x => x.2.HasScalar) requests entry ∧
        e = .nonScalarOperand entry.1 entry.2.operand.kind := by
  rw [mapM_eq_error_iff]
  refine exists_congr fun entry => ?_
  rw [IsFirstWithout.congr fun y hy => exists_resolveRequest_eq_ok_iff (hnumbers y hy)]
  refine and_congr_right fun hfirst => ?_
  rcases resolveRequest_cases (hnumbers entry hfirst.mem) with ⟨hscalar, -⟩ | ⟨-, herror⟩
  · exact absurd hscalar hfirst.not
  · rw [herror, Except.error.injEq, eq_comm]

/-- A clause with entries is turned down under a schema exactly for what makes it unfit. -/
theorem resolve_eq_error_iff {s : Schema} (hnodup : s.names.Nodup) {c : WhereClause}
    (hne : c.requests ≠ []) {e : RequestError} : c.resolve s = .error e ↔ c.Unfit s e := by
  have hfields : c.requests.forM (checkField s) = .ok () ↔ ∀ x ∈ c.requests, FitsField s x := by
    simp only [forM_eq_ok_iff, checkField_eq_ok_iff hnodup]
  have hnumbers : c.requests.forM checkNumber = .ok () ↔ ∀ x ∈ c.requests, x.2.HasNumber := by
    simp only [forM_eq_ok_iff, checkNumber_eq_ok_iff]
  unfold resolve
  rw [if_neg (by simpa using hne), bind_eq_error_iff]
  -- A later round is reached only where all entries have passed the rounds before it.
  constructor
  · rintro (hround | ⟨⟨⟩, hround, h⟩)
    · obtain ⟨entry, hfirst, ⟨hname, rfl⟩ | ⟨f, hf, hname, rfl⟩⟩ :=
        (forM_checkField_eq_error_iff hnodup).1 hround
      · exact .unknownField hfirst hname
      · exact .nonNumericField hfirst hf hname
    · rcases bind_eq_error_iff.1 h with hround' | ⟨⟨⟩, hround', h⟩
      · obtain ⟨entry, hfirst, rfl⟩ := forM_checkNumber_eq_error_iff.1 hround'
        exact .nonNumericOperand (hfields.1 hround) hfirst
      · obtain ⟨entry, hfirst, rfl⟩ :=
          (mapM_resolveRequest_eq_error_iff (hnumbers.1 hround')).1 h
        exact .nonScalarOperand (hfields.1 hround) (hnumbers.1 hround') hfirst
  · intro h
    cases h with
    | unknownField hfirst hname =>
      exact .inl ((forM_checkField_eq_error_iff hnodup).2 ⟨_, hfirst, .inl ⟨hname, rfl⟩⟩)
    | nonNumericField hfirst hf hname =>
      exact .inl ((forM_checkField_eq_error_iff hnodup).2
        ⟨_, hfirst, .inr ⟨_, hf, hname, rfl⟩⟩)
    | nonNumericOperand hall hfirst =>
      refine .inr ⟨(), hfields.2 hall, bind_eq_error_iff.2 (.inl ?_)⟩
      exact forM_checkNumber_eq_error_iff.2 ⟨_, hfirst, rfl⟩
    | nonScalarOperand hall hall' hfirst =>
      refine .inr ⟨(), hfields.2 hall, bind_eq_error_iff.2 (.inr ⟨(), hnumbers.2 hall', ?_⟩)⟩
      exact (mapM_resolveRequest_eq_error_iff hall').2 ⟨_, hfirst, rfl⟩

end WhereClause

/-! ### Requests on data -/

/-- What is wrong with a request on data, and which error this gives. -/
inductive Rejection (limits : Thresholds) : Json → Json → RequestError → Prop
  | notACollection {data whereValue : Json} (h : data.kind ≠ .array) :
      Rejection limits data whereValue (.notACollection data.kind)
  | unreadable {items : List Json} {whereValue : Json} {e : RequestError}
      (h : WhereClause.Unreadable whereValue e) : Rejection limits (.array items) whereValue e
  | unfit {items : List Json} {c : WhereClause} {e : RequestError}
      (h : c.Unfit (.infer limits (items.map RawRecord.ofJson)) e) :
      Rejection limits (.array items) c.toJson e

/-- A request on what is no array is turned down whatever it asks. -/
theorem queryData_of_kind_ne_array (limits : Thresholds) {data : Json} (h : data.kind ≠ .array)
    (whereValue : Json) :
    queryData limits data whereValue = .error (.notACollection data.kind) := by
  cases data with
  | array items => exact absurd rfl h
  | _ => rfl

/-- A request on an array is that on its records under the schema inferred from them. -/
theorem queryData_array (limits : Thresholds) (items : List Json) (whereValue : Json) :
    queryData limits (.array items) whereValue = WhereClause.ofJson whereValue >>=
      query (items.map RawRecord.ofJson) (.infer limits (items.map RawRecord.ofJson)) :=
  rfl

/-- A query fails where its clause does not resolve, with the error of that. -/
theorem query_eq_error_iff {records : List RawRecord} {s : Schema} {c : WhereClause}
    {e : RequestError} : query records s c = .error e ↔ c.resolve s = .error e := by
  unfold query
  simp [bind_eq_error_iff]

/-- A query is answered where its clause resolves. -/
theorem exists_query_eq_ok_iff {records : List RawRecord} {s : Schema} {c : WhereClause} :
    (∃ rows, query records s c = .ok rows) ↔ ∃ conditions, c.resolve s = .ok conditions := by
  unfold query
  simp only [bind_eq_ok_iff]
  constructor
  · rintro ⟨rows, conditions, hresolve, -⟩
    exact ⟨conditions, hresolve⟩
  · rintro ⟨conditions, hresolve⟩
    exact ⟨_, conditions, hresolve, rfl⟩

/-- The errors of requests on data are exactly those of `Rejection`: data that are no array, a
clause that is no object, one without entries, the first entry that holds no condition, the first
entry with an unknown field or a field that is not of numbers where its operator needs one, the
first that lacks a number it needs, and the first whose operand has to be a scalar and is none, each
of these only where nothing is wrong that comes before it in this list.  A request with none of
these faults is answered. -/
theorem queryData_rejections (limits : Thresholds) (data whereValue : Json) :
    (∀ e, queryData limits data whereValue = .error e ↔ Rejection limits data whereValue e) ∧
    ((∃ rows, queryData limits data whereValue = .ok rows) ↔
      ∃ items c, data = .array items ∧ whereValue = WhereClause.toJson c ∧ c.requests ≠ [] ∧
        ∀ entry ∈ c.requests, FitsField (.infer limits (items.map RawRecord.ofJson)) entry ∧
          entry.2.HasNumber ∧ entry.2.HasScalar) := by
  have hnodup (items : List Json) :
      (Schema.infer limits (items.map RawRecord.ofJson)).names.Nodup :=
    Schema.nodup_names_infer limits _
  by_cases hdata : data.kind = .array
  · obtain ⟨items, rfl⟩ : ∃ items, data = .array items := by
      cases data with
      | array items => exact ⟨items, rfl⟩
      | _ => cases hdata
    refine ⟨fun e => ?_, ?_⟩
    · rw [queryData_array, bind_eq_error_iff]
      simp only [query_eq_error_iff]
      constructor
      · rintro (hread | ⟨c, hread, hresolve⟩)
        · exact .unreadable (WhereClause.ofJson_eq_error_iff.1 hread)
        · obtain ⟨rfl, hne⟩ := WhereClause.ofJson_eq_ok_iff.1 hread
          exact .unfit ((WhereClause.resolve_eq_error_iff (hnodup items) hne).1 hresolve)
      · intro h
        cases h with
        | notACollection hkind => exact absurd hdata hkind
        | unreadable h => exact .inl (WhereClause.ofJson_eq_error_iff.2 h)
        | @unfit _ c _ h =>
          have hread := WhereClause.ofJson_eq_ok_iff.2 ⟨rfl, h.requests_ne_nil⟩
          have hresolve :=
            (WhereClause.resolve_eq_error_iff (hnodup items) h.requests_ne_nil).2 h
          exact .inr ⟨c, hread, hresolve⟩
    · simp only [queryData_array, bind_eq_ok_iff]
      constructor
      · rintro ⟨rows, c, hread, hquery⟩
        obtain ⟨rfl, -⟩ := WhereClause.ofJson_eq_ok_iff.1 hread
        have hresolve := exists_query_eq_ok_iff.1 ⟨rows, hquery⟩
        exact ⟨items, c, rfl, rfl, (WhereClause.exists_resolve_iff_fits (hnodup items)).1 hresolve⟩
      · rintro ⟨_, c, ⟨⟩, rfl, hne, hfits⟩
        have hresolve := (WhereClause.exists_resolve_iff_fits (hnodup items)).2 ⟨hne, hfits⟩
        obtain ⟨rows, hquery⟩ := exists_query_eq_ok_iff.2 hresolve
        exact ⟨rows, c, WhereClause.ofJson_eq_ok_iff.2 ⟨rfl, hne⟩, hquery⟩
  · have hrefused := queryData_of_kind_ne_array limits hdata whereValue
    refine ⟨fun e => ?_, ?_⟩
    · rw [hrefused, Except.error.injEq]
      constructor
      · rintro rfl
        exact .notACollection hdata
      · intro h
        cases h with
        | notACollection => rfl
        | unreadable | unfit => exact absurd rfl hdata
    · rw [hrefused]
      simp only [reduceCtorEq, exists_false, false_iff]
      rintro ⟨items, c, rfl, -⟩
      exact hdata rfl

/-- A number that the first entry lacks is not missed before the second has named a field. -/
example :
    queryData {} (.array [.object [("n", .number (.integer ⟨1, by decide, by decide⟩))]])
      (.object [("n", .object [("gt", .string "0")]), ("m", .object [("eq", .array [])])]) =
      .error (.unknownField "m" ["n"]) := by
  decide +kernel

end LooseRecords
