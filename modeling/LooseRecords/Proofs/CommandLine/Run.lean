import LooseRecords.CommandLine.Run
import LooseRecords.Proofs.Checks
import LooseRecords.Proofs.CommandLine.SchemaFile
import LooseRecords.Proofs.Schema.Inferred

/-!
# Describing data and querying it with the schema

A description that goes to a file leaves the schema of the data there, and the data as they were,
unless it was written over them.  A query that is given this file works with the very schema that it
would infer, and so ends as without it.
-/

namespace LooseRecords

open Text (Symbol)
open CommandLine (Command CommonArguments QueryArguments)

/-! ### Results -/

theorem Activity.around_eq_ok_iff {α : Type} {activity : Activity} {result : Except Failure α}
    {a : α} : activity.around result = .ok a ↔ result = .ok a :=
  mapError_eq_ok_iff

theorem Failure.blame_eq_ok_iff {ε α : Type} {cause : ε → Cause} {result : Except ε α} {a : α} :
    Failure.blame cause result = .ok a ↔ result = .ok a :=
  mapError_eq_ok_iff

namespace Run

/-- Whatever is noted, the records are those of the data. -/
theorem result_records (activity : Activity) (data : Json) :
    (records activity data).result =
      activity.around (Failure.blame .request (readRecords data)) := by
  rw [records, Logged.result_bind, Logged.result_ofResult]
  cases activity.around (Failure.blame .request (readRecords data)) with
  | error failure => rfl
  | ok rs =>
    simp only [bind, Except.bind]
    split <;> rfl

/-- Whatever is noted, the schema is the one that is inferred. -/
theorem result_inferSchema (limits : Thresholds) (rs : List RawRecord) :
    (inferSchema limits rs).result = .ok (.infer limits rs) := rfl

/-! ### Descriptions in files -/

/-- A schema that is delivered to a file is written at the path of its name. -/
theorem deliverSchema_file {files : Files} {name : String} {s : Schema} {d : Delivery}
    (hfile : FileName.isStandard name = false)
    (h : (deliverSchema files (some name) s).result = .ok d) :
    ∃ path, files.target name = .ok path ∧
      d = ⟨.file path, (SchemaFormat.ofName name).write s⟩ := by
  rw [deliverSchema] at h
  simp only [hfile, Bool.false_eq_true, if_false, Logged.result_bind, Logged.result_ofResult,
    Logged.result_note, Logged.result_pure] at h
  obtain ⟨path, htarget, hdelivery⟩ := bind_eq_ok_iff.1 h
  rw [Activity.around_eq_ok_iff, Schema.saveTarget, Activity.around_eq_ok_iff,
    Failure.blame_eq_ok_iff] at htarget
  cases hdelivery
  exact ⟨path, htarget, rfl⟩

/-- Where a hyphen is named for the output a schema goes to the screen. -/
theorem deliverSchema_standard {files : Files} {name : String} {s : Schema}
    (hstandard : FileName.isStandard name = true) :
    (deliverSchema files (some name) s).result =
      .ok ⟨.standardOutput, s.toJson.prettyText ++ "\n"⟩ := by
  rw [deliverSchema]
  simp only [hstandard, if_true, Logged.result_pure]

/-- A description that goes to a file holds the schema of the records that were read. -/
theorem describe_file {around : Surroundings} {a : CommonArguments} {name : String} {d : Delivery}
    (houtput : a.output = some name) (hfile : FileName.isStandard name = false)
    (h : (describe around a).result = .ok d) :
    ∃ data rs path, loadDataset around a.input = .ok data ∧ readRecords data = .ok rs ∧
      around.files.target name = .ok path ∧
        d = ⟨.file path, (SchemaFormat.ofName name).write (.infer a.limits rs)⟩ := by
  simp only [describe, Logged.result_bind, Logged.result_ofResult, Logged.result_note,
    result_records, result_inferSchema, houtput] at h
  obtain ⟨-, -, h⟩ := bind_eq_ok_iff.1 h
  obtain ⟨-, -, h⟩ := bind_eq_ok_iff.1 h
  obtain ⟨data, hdata, h⟩ := bind_eq_ok_iff.1 h
  obtain ⟨rs, hrs, h⟩ := bind_eq_ok_iff.1 h
  obtain ⟨s, hs, h⟩ := bind_eq_ok_iff.1 h
  rw [Activity.around_eq_ok_iff, Failure.blame_eq_ok_iff] at hrs
  cases hs
  obtain ⟨path, htarget, hdelivery⟩ := deliverSchema_file hfile h
  exact ⟨data, rs, path, hdata, hrs, htarget, hdelivery⟩

/-- A dataset that was not written over is loaded as before. -/
theorem loadDataset_put {around : Surroundings} {input : String} {data : Json} {path : Path}
    {content : List Symbol} (hpath : around.files.node? path ≠ some .directory)
    (hinput : FileName.isStandard input = true ∨ around.files.path input ≠ .ok path)
    (h : loadDataset around input = .ok data) :
    loadDataset ⟨around.files.put path content, around.standardInput⟩ input = .ok data := by
  rw [loadDataset] at h ⊢
  cases hstandard : FileName.isStandard input with
  | true =>
    rw [hstandard] at h
    exact h
  | false =>
    rw [hstandard] at h hinput
    simp only [Bool.false_eq_true, if_false, false_or] at h hinput ⊢
    cases hread : around.files.read input with
    | error fault =>
      rw [hread] at h
      cases fault <;> cases h
    | ok found =>
      rw [hread] at h
      rw [Files.read_put_of_ne hpath hinput hread]
      exact h

/-! ### Queries with a schema in a file -/

/-- A query ends alike with the schema of its records in a file and without a schema. -/
theorem result_query_schema {around : Surroundings} {q : QueryArguments} {name : String}
    {data : Json} {rs : List RawRecord} (hdata : loadDataset around q.input = .ok data)
    (hrs : readRecords data = .ok rs)
    (hload : Schema.load around.files name = .ok (.infer q.limits rs)) :
    (query around { q with schema := some name }).result =
      (query around { q with schema := none }).result := by
  have hrecords : (Activity.readingRecords q.input).around
      (Failure.blame .request (readRecords data)) = .ok rs := by
    rw [hrs]
    rfl
  have hschema : (Activity.loadingSchema name).around (Schema.load around.files name) =
      .ok (.infer q.limits rs) := by
    rw [hload]
    rfl
  have hok {α β : Type} (value : α) (next : α → Except Failure β) :
      (Except.ok value >>= next) = next value := rfl
  simp only [query, schema, whereValue, givenWhere, Logged.result_bind, Logged.result_ofResult,
    Logged.result_note, result_records, result_inferSchema, hdata, hok, hrecords, hschema]

end Run

/-! ### Runs -/

/-- A command ends with what comes of it. -/
theorem ending_run {arguments : List String} {command : Command}
    (hparse : Command.parse arguments = .ok command) (around : Surroundings) :
    (run around arguments).ending = match (Run.command around command).result with
      | .ok d => .delivered d
      | .error failure => .failed failure := by
  rw [run, hparse]
  dsimp only
  cases (Run.command around command).result <;> rfl

/-- A command that ends well has delivered something. -/
theorem exists_result_of_status {arguments : List String} {command : Command}
    {around : Surroundings} (hparse : Command.parse arguments = .ok command)
    (hstatus : (run around arguments).status = 0) :
    ∃ d, (Run.command around command).result = .ok d ∧
      (run around arguments).files around.files = d.files around.files := by
  have hending := ending_run hparse around
  cases hresult : (Run.command around command).result with
  | ok d =>
    rw [hresult] at hending
    refine ⟨d, rfl, ?_⟩
    rw [Outcome.files, hending]
  | error failure =>
    rw [hresult] at hending
    rw [Outcome.status, hending] at hstatus
    cases hstatus

/-- Schemas come back from the files they are saved in as JSON.  A valid schema is loaded as it was
saved, whatever characters its names and options have; of any other, loading gives the fault that
the check finds in it.  So when a description of data was written to a file, and not over the data,
a query of the same data with this file as its schema ends as the query without it. -/
theorem schema_file_round_trip (name : String) (hname : ¬FileName.IsYaml name) :
    (∀ (files : Files) (path : Path) (s : Schema), files.target name = .ok path →
      ∃ saved, Schema.save files name s = .ok saved ∧
        (s.validate = .ok () → Schema.load saved name = .ok s) ∧
        ∀ fault, s.validate = .error fault → Schema.load saved name =
          .error ⟨[.validatingSchema name], .request (.invalidSchema fault)⟩) ∧
    ∀ (around : Surroundings) (a : CommonArguments) (q : QueryArguments)
      (describing giving inferring : List String),
      Command.parse describing = .ok (.describe a) →
      Command.parse giving = .ok (.query { q with schema := some name }) →
      Command.parse inferring = .ok (.query { q with schema := none }) →
      a.output = some name → FileName.isStandard name = false →
      q.input = a.input → q.limits = a.limits →
      (FileName.isStandard a.input = true ∨
        around.files.path a.input ≠ around.files.path name) →
      (run around describing).status = 0 →
      let after : Surroundings :=
        ⟨(run around describing).files around.files, around.standardInput⟩
      (run after giving).ending = (run after inferring).ending := by
  refine ⟨?_, ?_⟩
  · intro files path s htarget
    refine ⟨_, Schema.save_eq_ok s htarget, ?_, ?_⟩
    · intro hvalid
      rw [Schema.load_put s hname htarget, hvalid]
    · intro fault hfault
      rw [Schema.load_put s hname htarget, hfault]
  · intro around a q describing giving inferring hdescribing hgiving hinferring houtput hfile hinput
      hlimits hother hstatus after
    obtain ⟨d, hd, hfiles⟩ := exists_result_of_status hdescribing hstatus
    obtain ⟨data, rs, path, hdata, hrs, htarget, rfl⟩ := Run.describe_file houtput hfile hd
    obtain ⟨hpath, hnode, -⟩ := Files.target_eq_ok_iff.1 htarget
    rw [hpath] at hother
    -- The query reads the data that were described, since the schema went to another file.
    have hdata' : Run.loadDataset after q.input = .ok data := by
      rw [hinput]
      have hafter : after = ⟨around.files.put path (Symbol.ofText
          ((SchemaFormat.ofName name).write (.infer a.limits rs))), around.standardInput⟩ :=
        congrArg (Surroundings.mk · around.standardInput) hfiles
      rw [hafter]
      exact Run.loadDataset_put hnode hother hdata
    -- What it loads is the schema that it would infer: this passes the check of loading.
    have hvalid : (Schema.infer a.limits rs).validate = .ok () :=
      Schema.validate_eq_ok_iff.2 (Schema.valid_infer a.limits rs)
    have hload : Schema.load after.files name = .ok (.infer q.limits rs) := by
      have hput := Schema.load_put (.infer a.limits rs) hname htarget
      rw [hvalid] at hput
      rw [hlimits]
      exact (congrArg (Schema.load · name) hfiles).trans hput
    have hresults := Run.result_query_schema hdata' hrs hload
    rw [ending_run hgiving, ending_run hinferring, Run.command, Run.command, hresults]

/-- A name with quotation marks, a backslash and a control, and an option with a tab, on the way
through a file; the same of a schema whose fields have one name; and data whose keys need escapes,
described and then queried. -/
theorem schema_file_round_trip_controls :
    let data := "[\x7b\"a \\\"b\\\" \\u0001\": \"x\\t\"\x7d, \x7b\"n\": 1\x7d]"
    let files : Files := ⟨["home"], [(["home", "data.json"], .file (Symbol.ofText data))]⟩
    let s : Schema := ⟨[⟨"say \"hi\"", "back\\slash\x01", .option, ["tab\t", "é"]⟩]⟩
    let t : Schema := ⟨[⟨"A", "a", .text, []⟩, ⟨"B", "a", .date, []⟩]⟩
    let describing := ["describe", "-i", "data.json", "-o", "x.json"]
    let inferring := ["query", "-i", "data.json", "--where", "\x7b\"n\": \x7b\"gt\": 0\x7d\x7d"]
    let after : Surroundings := ⟨(run ⟨files, []⟩ describing).files files, []⟩
    (∃ saved, Schema.save files "x.json" s = .ok saved ∧ Schema.load saved "x.json" = .ok s) ∧
      (∃ saved, Schema.save files "x.json" t = .ok saved ∧
        Schema.load saved "x.json" =
          .error ⟨[.validatingSchema "x.json"], .request (.invalidSchema (.duplicateName "a"))⟩) ∧
      (run after (inferring ++ ["-s", "x.json"])).ending = (run after inferring).ending := by
  intro data files s t describing inferring after
  have hname : ¬FileName.IsYaml "x.json" := by
    rintro ⟨extension, hextension, hyaml⟩
    cases hextension
    revert hyaml
    decide
  have htarget : files.target "x.json" = .ok ["home", "x.json"] := by decide +kernel
  obtain ⟨hfiles, hruns⟩ := schema_file_round_trip "x.json" hname
  refine ⟨?_, ?_, ?_⟩
  · obtain ⟨saved, hsaved, hload, -⟩ := hfiles files _ s htarget
    exact ⟨saved, hsaved, hload (by decide +kernel)⟩
  · obtain ⟨saved, hsaved, -, hload⟩ := hfiles files _ t htarget
    exact ⟨saved, hsaved, hload _ (by decide +kernel)⟩
  · have hinput : Files.path files "data.json" ≠ Files.path files "x.json" := by decide +kernel
    have hstatus : (run ⟨files, []⟩ describing).status = 0 := by decide +kernel
    let a : CommonArguments := ⟨"data.json", some "x.json", {}⟩
    let q : QueryArguments := ⟨⟨"data.json", none, {}⟩,
      some "\x7b\"n\": \x7b\"gt\": 0\x7d\x7d", none, [], none, none, false⟩
    exact hruns ⟨files, []⟩ a q describing (inferring ++ ["-s", "x.json"]) inferring
      (by decide +kernel) (by decide +kernel) (by decide +kernel) rfl (by decide +kernel) rfl rfl
      (.inr hinput) hstatus

end LooseRecords
