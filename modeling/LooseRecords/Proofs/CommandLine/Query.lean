import LooseRecords.Proofs.CommandLine.Run

/-!
# Queries of the command line and of the library

A query of the command line goes through the steps of a query of data (`queryData`) with others
between them: limits are checked, files are read, shorthands are added to the clause, and at last
the place of the output is looked up.  Where the limits, the clause and the data are read well, the
steps that are left stand in the same order as in the library.  So the command line fails as the
library does, and otherwise delivers the first of the rows that the library finds.
-/

namespace LooseRecords

open Text (Symbol)
open CommandLine (Command QueryArguments)

/-! ### Data that are no records -/

theorem kind_of_readRecords_ok {data : Json} {rs : List RawRecord}
    (h : readRecords data = .ok rs) : data.kind = .array := by
  cases data with
  | array items => rfl
  | _ => cases h

theorem kind_of_readRecords_error {data : Json} {e : RequestError}
    (h : readRecords data = .error e) : data.kind ≠ .array := by
  cases data with
  | array items => cases h
  | _ =>
    intro hkind
    cases hkind

namespace Run

/-! ### Results of queries -/

/-- Whatever is noted, the rows are those of the query of the records. -/
theorem result_select (s : Schema) (c : WhereClause) (rs : List RawRecord) :
    (select s c rs).result = Failure.blame .request (LooseRecords.query rs s c) := by
  rw [select, Logged.result_bind, Logged.result_ofResult]
  cases Failure.blame .request (LooseRecords.query rs s c) <;> rfl

/-- What a query is doing when its request fails: it is only reading that is to blame where the
data are no array. -/
def requestActivities (input : String) (data : Json) : List Activity :=
  if data.kind = .array then [] else [.readingRecords input]

/-- Once the limits, the clause and the data are there, a query without a schema goes on as the
query of the data, and looks up the place of the rows at the end. -/
theorem result_query {around : Surroundings} {q : QueryArguments} {data clauseJson : Json}
    (hschema : q.schema = none) (hlimits : q.limits.least ≤ q.limits.most)
    (hwhere : whereValue around.files q = .ok clauseJson)
    (hdata : loadDataset around q.input = .ok data) :
    (query around q).result = (do
      let rows ← (queryData q.limits data clauseJson).mapError fun e =>
        ⟨requestActivities q.input data, .request e⟩
      let place ← place around.files q.output
      .ok ⟨place, rowsText q.compact (limitRows q.limit rows)⟩) := by
  have hcheck : checkLimits q.limits = .ok () := if_pos hlimits
  have hok {α β : Type} (value : α) (next : α → Except Failure β) :
      (Except.ok value >>= next) = next value := rfl
  simp only [query, schema, hschema, Logged.result_bind, Logged.result_ofResult,
    Logged.result_note, Logged.result_pure, result_records, result_inferSchema, result_select,
    hcheck, hwhere, hdata, hok]
  unfold queryData
  cases hrecords : readRecords data with
  | error e =>
    rw [requestActivities, if_neg (kind_of_readRecords_error hrecords)]
    rfl
  | ok rs =>
    rw [requestActivities, if_pos (kind_of_readRecords_ok hrecords)]
    cases WhereClause.ofJson clauseJson with
    | error e => rfl
    | ok clause => rfl

end Run

/-! ### Runs -/

/-- The message of a request that failed begins with what was being done, if that is worth saying.
-/
theorem Failure.message_request (input : String) (data : Json) (e : RequestError) :
    (Failure.mk (Run.requestActivities input data) (.request e)).message =
      (if data.kind = .array then "" else (Activity.readingRecords input).message ++ ": ") ++
        e.message := by
  rw [Failure.message, Run.requestActivities]
  split
  · rw [String.empty_append]
    rfl
  · rfl

/-- A run that queries data without a schema, when the limits do not contradict each other, the
where clause and the shorthands are put together, and the data are read, comes to what the query of
the data comes to.  Its request fails with the same error, and the run with status 1 and the message
of this error, behind the name of the data where these are no array.  Otherwise, if the place of the
output is there, the run succeeds and delivers the rows in their order, up to the limit. -/
theorem run_query_as_queryData {arguments : List String} {q : QueryArguments}
    {around : Surroundings} {data clauseJson : Json}
    (hparse : Command.parse arguments = .ok (.query q)) (hschema : q.schema = none)
    (hlimits : q.limits.least ≤ q.limits.most)
    (hwhere : Run.whereValue around.files q = .ok clauseJson)
    (hdata : Run.loadDataset around q.input = .ok data) :
    let outcome := run around arguments
    (∀ e, queryData q.limits data clauseJson = .error e →
      outcome.status = 1 ∧
        outcome.ending = .failed ⟨Run.requestActivities q.input data, .request e⟩ ∧
        outcome.errorMessage? = some
          ((if data.kind = .array then ""
            else (Activity.readingRecords q.input).message ++ ": ") ++ e.message)) ∧
      ∀ place, Run.place around.files q.output = .ok place →
        (outcome.status = 0 ↔ ∃ rows, queryData q.limits data clauseJson = .ok rows) ∧
          ∀ rows, queryData q.limits data clauseJson = .ok rows →
            let emitted := match q.limit with
              | some limit => rows.take (min limit rows.length)
              | none => rows
            outcome.ending = .delivered ⟨place, Run.rowsText q.compact emitted⟩ := by
  intro outcome
  have hresult := Run.result_query hschema hlimits hwhere hdata
  have hending := ending_run hparse around
  rw [Run.command, hresult] at hending
  have hfailed : ∀ e, queryData q.limits data clauseJson = .error e →
      outcome.ending = .failed ⟨Run.requestActivities q.input data, .request e⟩ := by
    intro e he
    rw [he] at hending
    exact hending
  have hdelivered : ∀ place, Run.place around.files q.output = .ok place →
      ∀ rows, queryData q.limits data clauseJson = .ok rows →
        outcome.ending = .delivered ⟨place, Run.rowsText q.compact (Run.limitRows q.limit rows)⟩ := by
    intro place hplace rows hrows
    rw [hplace, hrows] at hending
    exact hending
  refine ⟨?_, ?_⟩
  · intro e he
    have hended := hfailed e he
    refine ⟨?_, hended, ?_⟩
    · rw [Outcome.status, hended]
    · rw [Outcome.errorMessage?, hended, ← Failure.message_request]
  · intro place hplace
    refine ⟨⟨?_, ?_⟩, ?_⟩
    · intro hstatus
      cases hrows : queryData q.limits data clauseJson with
      | ok rows => exact ⟨rows, rfl⟩
      | error e =>
        rw [Outcome.status, hfailed e hrows] at hstatus
        cases hstatus
    · rintro ⟨rows, hrows⟩
      rw [Outcome.status, hdelivered place hplace rows hrows]
    · intro rows hrows emitted
      have hlimit : emitted = Run.limitRows q.limit rows := by
        cases hq : q.limit with
        | none => simp [emitted, hq, Run.limitRows]
        | some limit => simp [emitted, hq, Run.limitRows, List.take_eq_take_min]
      rw [hlimit]
      exact hdelivered place hplace rows hrows

/-- Of two adults one is left by the limit, and a record that stands alone is no array of records. -/
theorem run_query_as_queryData_adults :
    let files : Files := ⟨["home"],
      [(["home", "many.json"], .file (Symbol.ofText
          "[\x7b\"Age\": 17\x7d, \x7b\"Age\": \"20\"\x7d, \x7b\"Age\": 30\x7d]")),
        (["home", "one.json"], .file (Symbol.ofText "\x7b\"Age\": 20\x7d"))]⟩
    let clause := "\x7b\"age\": \x7b\"gt\": 17\x7d\x7d"
    let arguments (input : String) :=
      ["query", "-i", input, "--where", clause, "--limit", "1", "--compact"]
    let q (input : String) : QueryArguments :=
      ⟨⟨input, none, {}⟩, some clause, none, [], none, some 1, true⟩
    let around : Surroundings := ⟨files, []⟩
    ∃ clauseJson many one, Run.whereValue files (q "") = .ok clauseJson ∧
      Run.loadDataset around "many.json" = .ok many ∧
      Run.loadDataset around "one.json" = .ok one ∧
      (∃ rows, queryData {} many clauseJson = .ok rows ∧
        Run.rowsText true (rows.take (min 1 rows.length)) = "[\x7b\"age\":20\x7d]\n") ∧
      (∃ e, queryData {} one clauseJson = .error e ∧
        (run around (arguments "one.json")).errorMessage? =
          some ("Reading records from \"one.json\": " ++ e.message)) := by
  intro files clause arguments q around
  obtain ⟨clauseJson, hwhere⟩ : ∃ c, Run.whereValue files (q "") = .ok c :=
    exists_eq_ok_of_isOk (by decide +kernel)
  obtain ⟨many, hmany⟩ : ∃ data, Run.loadDataset around "many.json" = .ok data :=
    exists_eq_ok_of_isOk (by decide +kernel)
  obtain ⟨one, hone⟩ : ∃ data, Run.loadDataset around "one.json" = .ok data :=
    exists_eq_ok_of_isOk (by decide +kernel)
  refine ⟨clauseJson, many, one, hwhere, hmany, hone, ?_, ?_⟩
  · have hparse : Command.parse (arguments "many.json") = .ok (.query (q "many.json")) := by
      decide +kernel
    obtain ⟨-, hplaced⟩ := run_query_as_queryData hparse rfl (by decide) hwhere hmany
    obtain ⟨hstatus, hdelivered⟩ := hplaced .standardOutput rfl
    have hending : (run around (arguments "many.json")).ending =
        .delivered ⟨.standardOutput, "[\x7b\"age\":20\x7d]\n"⟩ := by decide +kernel
    obtain ⟨rows, hrows⟩ := hstatus.1 (by rw [Outcome.status, hending])
    have htext := (hdelivered rows hrows).symm.trans hending
    injection htext with htext
    injection htext with _ htext
    exact ⟨rows, hrows, htext⟩
  · have hparse : Command.parse (arguments "one.json") = .ok (.query (q "one.json")) := by
      decide +kernel
    obtain ⟨hfailed, hplaced⟩ := run_query_as_queryData hparse rfl (by decide) hwhere hone
    have hstatus : (run around (arguments "one.json")).status ≠ 0 := by decide +kernel
    cases hrows : queryData {} one clauseJson with
    | ok rows =>
      exact absurd ((hplaced .standardOutput rfl).1.2 ⟨rows, hrows⟩) hstatus
    | error e =>
      obtain ⟨-, -, hmessage⟩ := hfailed e hrows
      have hobject : (Run.loadDataset around "one.json").map Json.kind = .ok .object := by
        decide +kernel
      rw [hone] at hobject
      have hkind : one.kind ≠ .array := by
        rw [Except.ok.inj hobject]
        decide
      have hreading : (Activity.readingRecords (q "one.json").input).message ++ ": " =
          "Reading records from \"one.json\": " := by decide +kernel
      rw [if_neg hkind, hreading] at hmessage
      exact ⟨e, rfl, hmessage⟩

end LooseRecords
