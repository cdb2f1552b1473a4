import LooseRecords.CommandLine.Run

/-!
# Runs, one act after the other

`run` says at once what comes of a run. Here the same run is a sequence of acts in a world. An act
looks at the files as they are at that moment, a file that is created is empty until something is
written to it, and what was done is not undone when a later act fails.
-/

namespace LooseRecords

open Text (Symbol)
open CommandLine (Command CommonArguments QueryArguments)

/-- What a run acts in, with what was printed and noted up to now. -/
structure World extends Surroundings where
  printed : String
  journal : List Event
  deriving DecidableEq, Repr

/-- The world after events were noted. -/
def World.noted (w : World) (events : List Event) : World :=
  { w with journal := w.journal ++ events }

/-- Adds to the content of the file at a path. -/
def Files.append (files : Files) (path : Path) (more : List Symbol) : Files :=
  match files.node? path with
  | some (.file content) => files.put path (content ++ more)
  | _ => files

/-- Acts in a world: their result, and the world that they leave, also where they fail. -/
def Acts (α : Type) : Type :=
  World → Except Failure α × World

namespace Acts

instance : Monad Acts where
  pure a := fun w => (.ok a, w)
  bind x f := fun w =>
    match x w with
    | (.ok a, after) => f a after
    | (.error failure, after) => (.error failure, after)

/-! ### Single acts -/

/-- Does what only looks at the world, and notes what happened. -/
def look {α : Type} (part : Surroundings → Logged α) : Acts α := fun w =>
  ((part w.toSurroundings).result, w.noted (part w.toSurroundings).events)

/-- Notes events. -/
def note (events : List Event) : Acts Unit :=
  look fun _ => .note events

/-- Gets a place ready. A file is created there, and emptied if it is there already. -/
def prepare : Place → Acts Unit
  | .standardOutput => pure ()
  | .file path => fun w => (.ok (), { w with files := w.files.put path [] })

/-- Writes a text to a place that is ready. -/
def write (text : String) : Place → Acts Unit
  | .standardOutput => fun w => (.ok (), { w with printed := w.printed ++ text })
  | .file path => fun w => (.ok (), { w with files := w.files.append path (Symbol.ofText text) })

/-! ### The commands -/

/-- Delivers a schema. -/
def deliverSchema (output : Option String) (s : Schema) : Acts Unit := do
  let print : Acts Unit := write (s.toJson.prettyText ++ "\n") .standardOutput
  match output with
  | none => print
  | some name =>
      if FileName.isStandard name then print
      else
        let path ← look fun around =>
          .ofResult ((Activity.writingSchema name).around (Schema.saveTarget around.files name))
        prepare (.file path)
        write ((SchemaFormat.ofName name).write s) (.file path)
        note [.schemaWritten s.fields.length name]

/-- Describes a dataset. -/
def describe (a : CommonArguments) : Acts Unit := do
  look fun _ => .ofResult (Run.checkLimits a.limits)
  note [.describing a.input]
  let data ← look fun around => .ofResult (Run.loadDataset around a.input)
  let records ← look fun _ => Run.records (.inferringSchema a.input) data
  let s ← look fun _ => Run.inferSchema a.limits records
  deliverSchema a.output s

/-- Queries a dataset. -/
def query (a : QueryArguments) : Acts Unit := do
  look fun _ => .ofResult (Run.checkLimits a.limits)
  let whereValue ← look fun around => .ofResult (Run.whereValue around.files a)
  let data ← look fun around => .ofResult (Run.loadDataset around a.input)
  let records ← look fun _ => Run.records (.readingRecords a.input) data
  let clause ← look fun _ => .ofResult (Failure.blame .request (WhereClause.ofJson whereValue))
  note [.querying a.input clause.requests.length]
  let s ← look fun around => Run.schema around.files a records
  note [.schemaFields s.names]
  let rows ← look fun _ => Run.select s clause records
  let emitted := Run.limitRows a.limit rows
  let place ← look fun around => .ofResult (Run.place around.files a.output)
  prepare place
  write (Run.rowsText a.compact emitted) place
  note [.matched rows.length records.length emitted.length]

/-- Carries out a command. -/
def command : Command → Acts Unit
  | .describe a => describe a
  | .query a => query a

/-- Runs the program: its exit status, and the world that is left. -/
def carryOut (arguments : List String) (w : World) : Nat × World :=
  match Command.parse arguments with
  | .error fault => (Outcome.status ⟨[], .refused fault⟩, w)
  | .ok c =>
      match command c w with
      | (.ok (), after) => (0, after)
      | (.error _, after) => (1, after)

end Acts
end LooseRecords
