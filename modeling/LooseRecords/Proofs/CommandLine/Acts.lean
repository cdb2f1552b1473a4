import LooseRecords.CommandLine.Acts
import LooseRecords.Proofs.CommandLine.Query

/-!
# What a run leaves behind

The acts of a run amount to what `run` says at once (`Acts.carryOut_eq_run`).  All but the last of
them only look at the world, and nothing can fail any more once the place of the output has been got
ready.  This is what `Acts.Delivers` says of a sequence of acts; it is carried over from what is left
of a sequence to the sequence with one more look in front (`Acts.Delivers.look`).

So a run that fails leaves the files as they were and prints nothing, and a run that succeeds writes
to one place only, whichever of the files that it reads may lie there.  What it writes is told by what
the command reads (`Delivery.Answers`): a schema in the format of its place, or rows as JSON.
-/

namespace LooseRecords

open Text (Symbol)
open CommandLine (Command CommonArguments QueryArguments)

/-! ### Places -/

/-- The output that a command names. -/
def CommandLine.Command.output : Command → Option String
  | .describe a => a.output
  | .query a => a.output

/-- Whether a place is the one for an output: the standard output where no file is named, and
otherwise the place where the name of the file leads. -/
def Place.IsFor (files : Files) (output : Option String) : Place → Prop
  | .standardOutput => ∀ name, output = some name → FileName.isStandard name = true
  | .file path => ∃ name, output = some name ∧ FileName.isStandard name = false ∧
      files.target name = .ok path

theorem Place.isFor_none (files : Files) : Place.standardOutput.IsFor files none := by
  intro name hname
  cases hname

theorem Place.isFor_standard (files : Files) {name : String}
    (h : FileName.isStandard name = true) : Place.standardOutput.IsFor files (some name) := by
  intro other hother
  cases hother
  exact h

/-- A run finds the place for its output. -/
theorem Run.isFor_of_place {files : Files} {output : Option String} {p : Place}
    (h : place files output = .ok p) : p.IsFor files output := by
  unfold place at h
  cases output with
  | none =>
    cases h
    exact Place.isFor_none files
  | some name =>
    dsimp only at h
    split at h
    · next hstandard =>
      cases h
      exact Place.isFor_standard files hstandard
    · next hfile =>
      rw [Activity.around_eq_ok_iff, Failure.blame_eq_ok_iff, map_eq_ok_iff] at h
      obtain ⟨path, htarget, rfl⟩ := h
      exact ⟨name, rfl, Bool.not_eq_true _ ▸ hfile, htarget⟩

/-- What is delivered to the standard output is printed and leaves the files alone. -/
theorem Delivery.of_isFor_standard {files : Files} {output : Option String} {d : Delivery}
    (h : d.place.IsFor files output)
    (hstandard : ∀ name, output = some name → FileName.isStandard name = true) :
    d.standardOutput = d.text ∧ d.files files = files := by
  obtain ⟨place, text⟩ := d
  cases place with
  | standardOutput => exact ⟨rfl, rfl⟩
  | file path =>
    obtain ⟨name, hname, hfile, -⟩ := h
    rw [hstandard name hname] at hfile
    cases hfile

/-- What is delivered to a file is not printed; it is the content of this file, and nothing else
comes to be or changes. -/
theorem Delivery.of_isFor_file {files : Files} {name : String} {d : Delivery}
    (h : d.place.IsFor files (some name)) (hfile : FileName.isStandard name = false) :
    d.standardOutput = "" ∧
      ∃ path, files.path name = .ok path ∧
        (d.files files).node? path = some (.file (Symbol.ofText d.text)) ∧
        ∀ other, other ≠ path → (d.files files).node? other = files.node? other := by
  obtain ⟨place, text⟩ := d
  cases place with
  | standardOutput =>
    rw [h name rfl] at hfile
    cases hfile
  | file path =>
    obtain ⟨found, hfound, -, htarget⟩ := h
    cases hfound
    obtain ⟨hpath, -, -⟩ := Files.target_eq_ok_iff.1 htarget
    refine ⟨rfl, path, hpath, Files.node?_put_self, ?_⟩
    intro other hne
    exact Files.node?_put_eq_of_ne (Files.node?_ne_none_of_path hpath) hne

/-! ### The world after a run -/

/-- The world after a part of a run that delivers something or fails. -/
def World.delivered (w : World) (part : Logged Delivery) : World :=
  match part.result with
  | .ok d => { w.noted part.events with
      files := d.files w.files, printed := w.printed ++ d.standardOutput }
  | .error _ => w.noted part.events

/-- The world after a run. -/
def World.after (w : World) (outcome : Outcome) : World :=
  { w.noted outcome.events with
    files := outcome.files w.files, printed := w.printed ++ outcome.standardOutput }

namespace Acts

/-- Acts that do what is said of a part of a run wherever they see the same.  Where it fails they
leave nothing but notes in the world, and where it delivers something this goes to the place for the
output. -/
structure Delivers (acts : Acts Unit) (around : Surroundings) (output : Option String)
    (part : Logged Delivery) : Prop where
  does : ∀ w : World, w.toSurroundings = around →
    acts w = (part.result.map fun _ => (), w.delivered part)
  place : ∀ d, part.result = .ok d → d.place.IsFor around.files output

variable {around : Surroundings} {output : Option String}

/-- One more look in front of acts that deliver something. -/
theorem Delivers.look {α : Type} {part : Surroundings → Logged α} {acts : α → Acts Unit}
    {next : α → Logged Delivery}
    (h : ∀ a, (part around).result = .ok a → Delivers (acts a) around output (next a)) :
    Delivers (Acts.look part >>= acts) around output (part around >>= next) where
  does := by
    rintro w rfl
    cases hresult : (part w.toSurroundings).result with
    | error failure => simp [Acts.look, bind, hresult, World.delivered, Except.map]
    | ok a =>
      have hacts := (h a hresult).does (w.noted (part w.toSurroundings).events) rfl
      simp only [Acts.look, bind, hresult, hacts, World.delivered]
      cases (next a).result <;> simp [World.noted]
  place := by
    intro d hd
    rw [Logged.result_bind] at hd
    obtain ⟨a, ha, hnext⟩ := bind_eq_ok_iff.1 hd
    exact (h a ha).place d hnext

/-- Printing a text delivers it to the standard output. -/
theorem delivers_print (text : String) (hplace : Place.standardOutput.IsFor around.files output) :
    Delivers (write text .standardOutput) around output (pure ⟨.standardOutput, text⟩) where
  does := by
    rintro w rfl
    simp [write, World.delivered, Delivery.files, Delivery.standardOutput, World.noted, Except.map,
      pure]
  place := by
    rintro d ⟨⟩
    exact hplace

/-- Writing to a place that was got ready delivers the text there.  What was in the file before does
not matter. -/
theorem delivers_write {place : Place} (text : String) (events : List Event)
    (hplace : place.IsFor around.files output) :
    Delivers (do prepare place; write text place; note events) around output
      (do .note events; pure ⟨place, text⟩) where
  does := by
    rintro w rfl
    cases place with
    | standardOutput =>
      simp [prepare, write, note, Acts.look, bind, pure, World.delivered, Delivery.files,
        Delivery.standardOutput, World.noted, Except.map, Logged.note]
    | file path =>
      have hempty : (w.files.put path []).node? path = some (.file []) := Files.node?_put_self
      have hfiles : (w.files.put path []).append path (Symbol.ofText text) =
          w.files.put path (Symbol.ofText text) := by
        rw [Files.append, hempty]
        exact Files.put_put
      simp [prepare, write, note, Acts.look, bind, pure, hfiles, World.delivered, Delivery.files,
        Delivery.standardOutput, World.noted, Except.map, Logged.note]
  place := by
    rintro d ⟨⟩
    exact hplace

/-! ### The commands -/

theorem delivers_deliverSchema (around : Surroundings) (output : Option String) (s : Schema) :
    Delivers (deliverSchema output s) around output
      (Run.deliverSchema around.files output s) := by
  unfold deliverSchema Run.deliverSchema
  cases output with
  | none => exact delivers_print _ (Place.isFor_none around.files)
  | some name =>
    dsimp only
    split
    · next hstandard => exact delivers_print _ (Place.isFor_standard around.files hstandard)
    · next hfile =>
      refine .look fun path hpath => ?_
      rw [Logged.result_ofResult, Activity.around_eq_ok_iff, Schema.saveTarget,
        Activity.around_eq_ok_iff, Failure.blame_eq_ok_iff] at hpath
      exact delivers_write _ _ ⟨name, rfl, Bool.not_eq_true _ ▸ hfile, hpath⟩

theorem delivers_describe (around : Surroundings) (a : CommonArguments) :
    Delivers (describe a) around a.output (Run.describe around a) := by
  refine .look fun _ _ => .look fun _ _ => .look fun data _ => .look fun records _ =>
    .look fun s _ => ?_
  exact delivers_deliverSchema around a.output s

theorem delivers_query (around : Surroundings) (a : QueryArguments) :
    Delivers (query a) around a.output (Run.query around a) := by
  refine .look fun _ _ => .look fun clauseJson _ => .look fun data _ => .look fun records _ =>
    .look fun clause _ => .look fun _ _ => .look fun s _ => .look fun _ _ => .look fun rows _ =>
      .look fun place hplace => ?_
  exact delivers_write _ _ (Run.isFor_of_place hplace)

theorem delivers_command (around : Surroundings) (c : Command) :
    Delivers (command c) around c.output (Run.command around c) := by
  cases c with
  | describe a => exact delivers_describe around a
  | query a => exact delivers_query around a

/-- The acts of a run amount to what is said of the run at once. -/
theorem carryOut_eq_run (arguments : List String) (w : World) :
    carryOut arguments w =
      ((run w.toSurroundings arguments).status, w.after (run w.toSurroundings arguments)) := by
  unfold carryOut run
  cases Command.parse arguments with
  | error fault => simp [World.after, World.noted, Outcome.files, Outcome.standardOutput]
  | ok c =>
    have hacts := (delivers_command w.toSurroundings c).does w rfl
    dsimp only
    rw [hacts, World.delivered]
    cases (Run.command w.toSurroundings c).result with
    | ok d => rfl
    | error failure =>
      simp [World.after, World.noted, Outcome.files, Outcome.standardOutput, Outcome.status,
        Except.map]

theorem status_carryOut (arguments : List String) (w : World) :
    (carryOut arguments w).1 = (run w.toSurroundings arguments).status := by
  rw [carryOut_eq_run]

end Acts

/-! ### What is delivered -/

/-- The rows that a query emits are those that it finds, up to the limit. -/
def CommandLine.QueryArguments.Emits (a : QueryArguments) (rows emitted : List TypedRecord) : Prop :=
  (a.limit = none → emitted = rows) ∧ ∀ limit, a.limit = some limit → emitted = rows.take limit

/-- The answer to a command, by what the command reads.  A description is the schema of the records: on
the screen as JSON and a line break, in a file in the format that the name of the file asks for.  The
answer to a query is the rows that meet its clause as a JSON array and a line break; the schema that it
goes by is the one that it is given, or else that of the records. -/
inductive Delivery.Answers (around : Surroundings) : Command → Delivery → Prop
  | schemaOnScreen {a : CommonArguments} {data : Json} {records : List RawRecord}
      (hdata : Run.loadDataset around a.input = .ok data)
      (hrecords : readRecords data = .ok records) :
      Answers around (.describe a)
        ⟨.standardOutput, (Schema.infer a.limits records).toJson.prettyText ++ "\n"⟩
  | schemaInFile {a : CommonArguments} {data : Json} {records : List RawRecord} {name : String}
      {path : Path} (hdata : Run.loadDataset around a.input = .ok data)
      (hrecords : readRecords data = .ok records) (houtput : a.output = some name) :
      Answers around (.describe a)
        ⟨.file path, (SchemaFormat.ofName name).write (.infer a.limits records)⟩
  | rows {a : QueryArguments} {clauseJson data : Json} {records : List RawRecord}
      {clause : WhereClause} {s : Schema} {rows emitted : List TypedRecord} {place : Place}
      (hwhere : Run.whereValue around.files a = .ok clauseJson)
      (hclause : WhereClause.ofJson clauseJson = .ok clause)
      (hdata : Run.loadDataset around a.input = .ok data)
      (hrecords : readRecords data = .ok records)
      (hgiven : ∀ name, a.schema = some name → Schema.load around.files name = .ok s)
      (hinferred : a.schema = none → s = .infer a.limits records)
      (hrows : LooseRecords.query records s clause = .ok rows) (hemitted : a.Emits rows emitted) :
      Answers around (.query a)
        ⟨place, (if a.compact then (Json.array (emitted.map TypedRecord.toJson)).text
          else (Json.array (emitted.map TypedRecord.toJson)).prettyText) ++ "\n"⟩

namespace Run

variable {around : Surroundings} {d : Delivery}

theorem answers_of_describe {a : CommonArguments} (h : (describe around a).result = .ok d) :
    d.Answers around (.describe a) := by
  simp only [describe, Logged.result_bind, Logged.result_ofResult, Logged.result_note,
    result_records, result_inferSchema] at h
  obtain ⟨-, -, h⟩ := bind_eq_ok_iff.1 h
  obtain ⟨-, -, h⟩ := bind_eq_ok_iff.1 h
  obtain ⟨data, hdata, h⟩ := bind_eq_ok_iff.1 h
  obtain ⟨records, hrecords, h⟩ := bind_eq_ok_iff.1 h
  obtain ⟨s, hs, h⟩ := bind_eq_ok_iff.1 h
  rw [Activity.around_eq_ok_iff, Failure.blame_eq_ok_iff] at hrecords
  cases hs
  cases houtput : a.output with
  | none =>
    rw [houtput] at h
    cases h
    exact .schemaOnScreen hdata hrecords
  | some name =>
    rw [houtput] at h
    cases hstandard : FileName.isStandard name with
    | true =>
      rw [deliverSchema_standard hstandard] at h
      cases h
      exact .schemaOnScreen hdata hrecords
    | false =>
      obtain ⟨path, -, rfl⟩ := deliverSchema_file hstandard h
      exact .schemaInFile hdata hrecords houtput

theorem emits_limitRows (a : QueryArguments) (rows : List TypedRecord) :
    a.Emits rows (limitRows a.limit rows) := by
  constructor
  · intro hnone
    rw [hnone]
    rfl
  · intro limit hlimit
    rw [hlimit]
    rfl

theorem answers_of_query {a : QueryArguments} (h : (query around a).result = .ok d) :
    d.Answers around (.query a) := by
  simp only [query, Logged.result_bind, Logged.result_ofResult, Logged.result_note,
    Logged.result_pure, result_records, result_select] at h
  obtain ⟨-, -, h⟩ := bind_eq_ok_iff.1 h
  obtain ⟨clauseJson, hwhere, h⟩ := bind_eq_ok_iff.1 h
  obtain ⟨data, hdata, h⟩ := bind_eq_ok_iff.1 h
  obtain ⟨records, hrecords, h⟩ := bind_eq_ok_iff.1 h
  obtain ⟨clause, hclause, h⟩ := bind_eq_ok_iff.1 h
  obtain ⟨-, -, h⟩ := bind_eq_ok_iff.1 h
  obtain ⟨s, hs, h⟩ := bind_eq_ok_iff.1 h
  obtain ⟨-, -, h⟩ := bind_eq_ok_iff.1 h
  obtain ⟨rows, hrows, h⟩ := bind_eq_ok_iff.1 h
  obtain ⟨place, -, h⟩ := bind_eq_ok_iff.1 h
  obtain ⟨-, -, h⟩ := bind_eq_ok_iff.1 h
  rw [Activity.around_eq_ok_iff, Failure.blame_eq_ok_iff] at hrecords
  rw [Failure.blame_eq_ok_iff] at hclause hrows
  cases h
  refine .rows hwhere hclause hdata hrecords ?_ ?_ hrows (emits_limitRows a rows)
  · intro name hname
    rw [schema, hname, Logged.result_ofResult, Activity.around_eq_ok_iff] at hs
    exact hs
  · intro hnone
    rw [schema, hnone] at hs
    exact (Except.ok.inj hs).symm

/-- What is delivered is the answer to the command. -/
theorem answers_of_command {c : Command} (h : (command around c).result = .ok d) :
    d.Answers around c := by
  cases c with
  | describe a => exact answers_of_describe h
  | query a => exact answers_of_query h

end Run

namespace Acts

/-! ### What is left -/

/-- A run of a command ends with status 0 or 1.  With status 1 nothing was printed and the files are
as they were.  With status 0 the text of the answer to the command was printed, where no file is named
for the output, and the files are as they were; or else nothing was printed, the file that is named
holds the text, and whatever lies at any other path is as it was. -/
theorem carryOut_one_place {arguments : List String} {c : Command}
    (hparse : Command.parse arguments = .ok c) (before : World) :
    let status := (carryOut arguments before).1
    let after := (carryOut arguments before).2
    (status = 0 ∨ status = 1) ∧
      (status = 1 → after.printed = before.printed ∧ after.files = before.files) ∧
      (status = 0 → ∃ d : Delivery,
        (run before.toSurroundings arguments).ending = .delivered d ∧
          d.Answers before.toSurroundings c ∧
          ((∀ name, c.output = some name → FileName.isStandard name = true) →
            after.printed = before.printed ++ d.text ∧ after.files = before.files) ∧
          ∀ name, c.output = some name → FileName.isStandard name = false →
            after.printed = before.printed ∧
              ∃ path, before.files.path name = .ok path ∧
                after.files.node? path = some (.file (Symbol.ofText d.text)) ∧
                ∀ other, other ≠ path → after.files.node? other = before.files.node? other) := by
  have hending := ending_run hparse before.toSurroundings
  rw [carryOut_eq_run]
  intro status after
  cases hresult : (Run.command before.toSurroundings c).result with
  | error failure =>
    rw [hresult] at hending
    have hstatus : status = 1 := by
      simp only [status, Outcome.status, hending]
    refine ⟨.inr hstatus, fun _ => ?_, fun hzero => ?_⟩
    · simp [after, World.after, World.noted, Outcome.files, Outcome.standardOutput, hending]
    · rw [hstatus] at hzero
      cases hzero
  | ok d =>
    rw [hresult] at hending
    have hplace := (delivers_command before.toSurroundings c).place d hresult
    have hstatus : status = 0 := by
      simp only [status, Outcome.status, hending]
    have hprinted : after.printed = before.printed ++ d.standardOutput := by
      simp only [after, World.after, Outcome.standardOutput, hending]
    have hfiles : after.files = d.files before.files := by
      simp only [after, World.after, Outcome.files, hending]
    refine ⟨.inl hstatus, fun hone => ?_, fun _ => ⟨d, hending, Run.answers_of_command hresult, ?_⟩⟩
    · rw [hstatus] at hone
      cases hone
    · rw [hprinted, hfiles]
      constructor
      · intro hstandard
        obtain ⟨htext, hsame⟩ := Delivery.of_isFor_standard hplace hstandard
        exact ⟨by rw [htext], hsame⟩
      · intro name hname hfile
        rw [hname] at hplace
        obtain ⟨hnothing, hwritten⟩ := Delivery.of_isFor_file hplace hfile
        exact ⟨by rw [hnothing, String.append_empty], hwritten⟩

/-- A description and the rows of a query that are written over the data, and a query that would be
written over its where clause but asks for a field that is not there. -/
theorem carryOut_one_place_over_input :
    let data := Symbol.ofText "[\x7b\"Age\": 17\x7d, \x7b\"Age\": 30\x7d]"
    let clause := Symbol.ofText "\x7b\"name\": \"Ann\"\x7d"
    let files : Files := ⟨["home"],
      [(["home", "data.json"], .file data), (["home", "where.json"], .file clause)]⟩
    let before : World := ⟨⟨files, []⟩, "", []⟩
    let describing := ["describe", "-i", "data.json", "-o", "./data.json"]
    let adults := ["query", "-i", "data.json", "--filter", "age>17", "-o", "data.json", "--compact"]
    let querying := ["query", "-i", "data.json", "--where-file", "where.json", "-o", "where.json"]
    ((carryOut describing before).1 = 0 ∧ (carryOut describing before).2.printed = "" ∧
        (∃ d, (run before.toSurroundings describing).ending = .delivered d ∧
          (carryOut describing before).2.files.node? ["home", "data.json"] =
            some (.file (Symbol.ofText d.text))) ∧
        (carryOut describing before).2.files.node? ["home", "where.json"] =
          some (.file clause)) ∧
      ((carryOut adults before).1 = 0 ∧ (carryOut adults before).2.printed = "" ∧
        (carryOut adults before).2.files.node? ["home", "data.json"] =
          some (.file (Symbol.ofText "[\x7b\"age\":30\x7d]\n")) ∧
        (carryOut adults before).2.files.node? ["home", "where.json"] = some (.file clause)) ∧
      (carryOut querying before).1 = 1 ∧ (carryOut querying before).2.printed = "" ∧
        (carryOut querying before).2.files = files := by
  intro data clause files before describing adults querying
  have hother : files.node? ["home", "where.json"] = some (.file clause) := by decide +kernel
  refine ⟨?_, ?_, ?_⟩
  · have hparse : Command.parse describing =
        .ok (.describe ⟨"data.json", some "./data.json", {}⟩) := by decide +kernel
    have hrun : (run before.toSurroundings describing).status = 0 := by decide +kernel
    have hstatus := (status_carryOut describing before).trans hrun
    have hlead : files.path "./data.json" = .ok ["home", "data.json"] := by decide +kernel
    obtain ⟨-, -, hdone⟩ := carryOut_one_place hparse before
    obtain ⟨d, hending, -, -, hfile⟩ := hdone hstatus
    obtain ⟨hprinted, path, hpath, hnode, hothers⟩ := hfile "./data.json" rfl (by decide)
    have hplace : path = ["home", "data.json"] := Except.ok.inj (hpath.symm.trans hlead)
    rw [hplace] at hnode hothers
    exact ⟨hstatus, hprinted, ⟨d, hending, hnode⟩,
      (hothers ["home", "where.json"] (by decide)).trans hother⟩
  · have hparse : Command.parse adults = .ok (.query ⟨⟨"data.json", some "data.json", {}⟩, none,
        none, ["age>17"], none, none, true⟩) := by decide +kernel
    have hrun : (run before.toSurroundings adults).ending = .delivered
        ⟨.file ["home", "data.json"], "[\x7b\"age\":30\x7d]\n"⟩ := by decide +kernel
    have hstatus := status_carryOut adults before
    rw [Outcome.status, hrun] at hstatus
    have hlead : files.path "data.json" = .ok ["home", "data.json"] := by decide +kernel
    obtain ⟨-, -, hdone⟩ := carryOut_one_place hparse before
    obtain ⟨d, hending, -, -, hfile⟩ := hdone hstatus
    rw [hrun] at hending
    cases hending
    obtain ⟨hprinted, path, hpath, hnode, hothers⟩ := hfile "data.json" rfl (by decide)
    have hplace : path = ["home", "data.json"] := Except.ok.inj (hpath.symm.trans hlead)
    rw [hplace] at hnode hothers
    exact ⟨hstatus, hprinted, hnode, (hothers ["home", "where.json"] (by decide)).trans hother⟩
  · have hparse : Command.parse querying =
        .ok (.query ⟨⟨"data.json", some "where.json", {}⟩, none, some "where.json", [], none, none,
          false⟩) := by decide +kernel
    have hrun : (run before.toSurroundings querying).status = 1 := by decide +kernel
    have hstatus := (status_carryOut querying before).trans hrun
    obtain ⟨-, hfailed, -⟩ := carryOut_one_place hparse before
    obtain ⟨hprinted, hfiles⟩ := hfailed hstatus
    exact ⟨hstatus, hprinted, hfiles⟩

end Acts
end LooseRecords
