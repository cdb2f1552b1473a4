import LooseRecords.CommandLine.Arguments
import LooseRecords.CommandLine.Journal
import LooseRecords.CommandLine.SchemaFile
import LooseRecords.Query

/-!
# Runs

A run of the program reads what its command names, and delivers one text to one place: the standard
output or a file. Nothing is written before the text is complete and the place is known to be there,
so a run that fails leaves everything as it was.
-/

namespace LooseRecords

open Text (Symbol)
open CommandLine (Command CommonArguments QueryArguments UsageFault)

/-- What a run can read. -/
structure Surroundings where
  files : Files
  standardInput : List Symbol
  deriving DecidableEq, Repr

/-- Where a text goes. -/
inductive Place where
  | standardOutput
  | file (path : Path)
  deriving DecidableEq, Repr

/-- A text and where it goes. -/
structure Delivery where
  place : Place
  text : String
  deriving DecidableEq, Repr

namespace Delivery

/-- What a delivery adds to the standard output. -/
def standardOutput (d : Delivery) : String :=
  match d.place with
  | .standardOutput => d.text
  | .file _ => ""

/-- The files after a delivery. -/
def files (d : Delivery) (before : Files) : Files :=
  match d.place with
  | .standardOutput => before
  | .file path => before.put path (Symbol.ofText d.text)

end Delivery

namespace Run

/-! ### What is read -/

/-- Checks that some number of values lies between the limits. -/
def checkLimits (limits : Thresholds) : Except Failure Unit :=
  if limits.least ≤ limits.most then .ok () else .error ⟨[], .thresholds limits⟩

/-- Loads the JSON value of a dataset, from the standard input where a hyphen names it. -/
def loadDataset (around : Surroundings) (name : String) : Except Failure Json :=
  let content : Except FileFault (List Symbol) :=
    if FileName.isStandard name then .ok around.standardInput else around.files.read name
  match content with
  | .ok content =>
      (Activity.parsingDataset name).around (Failure.blame .json (Json.ofSymbols content))
  | .error .isADirectory => .error ⟨[.parsingDataset name], .file .isADirectory⟩
  | .error fault => .error ⟨[.openingDataset name], .file fault⟩

/-- The text of a file. -/
def readText (files : Files) (name : String) : Except FileFault (List Symbol) := do
  let content ← files.read name
  if (Symbol.chars? content).isSome then .ok content else .error .notText

/-- The where clause that is written out, in an argument or in a file. -/
def givenWhere (files : Files) (a : QueryArguments) : Except Failure (Option Json) :=
  match a.whereText, a.whereFile with
  | some text, _ => Activity.parsingWhere.around ((Failure.blame .json (Json.parse text)).map some)
  | none, some name => do
      let content ← (Activity.readingWhereFile name).around
        (Failure.blame .file (readText files name))
      (Activity.parsingWhereFile name).around
        ((Failure.blame .json (Json.ofSymbols content)).map some)
  | none, none => .ok none

/-- Adds conditions to the entries of a clause, which may not have their fields yet. -/
def addEntries (entries : List (String × Json)) :
    List (String × Json) → Except Failure (List (String × Json))
  | [] => .ok entries
  | (field, condition) :: rest =>
      if Entries.contains entries field then .error ⟨[], .constrainedTwice field⟩
      else addEntries (entries ++ [(field, condition)]) rest

/-- The where clause of a value that is written out and of shorthands. What is written out and is no
object is left as it is. -/
def mergeWhere (given : Option Json) (shorthand : List (String × Json)) : Except Failure Json :=
  match given with
  | none => .ok (.object shorthand)
  | some (.object entries) => (addEntries entries shorthand).map .object
  | some value => .ok value

/-- The where clause of a query. -/
def whereValue (files : Files) (a : QueryArguments) : Except Failure Json := do
  let given ← givenWhere files a
  let shorthands ← Failure.blame .shorthand (Shorthand.readAll a.filters)
  mergeWhere given (Shorthand.entries shorthands)

/-- The number of items of a dataset that are no objects. -/
def foreignCount : Json → Nat
  | .array items => items.countP fun item => item.kind ≠ .object
  | _ => 0

/-- The raw records of a dataset. -/
def records (activity : Activity) (data : Json) : Logged (List RawRecord) := do
  let records ← .ofResult (activity.around (Failure.blame .request (readRecords data)))
  if foreignCount data ≠ 0 then .note [.foreignItems (foreignCount data)]
  pure records

/-- The schema that is inferred from records. -/
def inferSchema (limits : Thresholds) (records : List RawRecord) : Logged Schema := do
  .note (Event.ofFields (InferredField.ofRecords limits records))
  pure (.infer limits records)

/-- The schema of a query: the one in the file that is named, or else the one that is inferred. -/
def schema (files : Files) (a : QueryArguments) (records : List RawRecord) : Logged Schema :=
  match a.schema with
  | some name => .ofResult ((Activity.loadingSchema name).around (Schema.load files name))
  | none => inferSchema a.limits records

/-! ### What is written -/

/-- The place of a text: the named file, or the standard output where no file or a hyphen is named.
-/
def place (files : Files) (output : Option String) : Except Failure Place :=
  match output with
  | none => .ok .standardOutput
  | some name =>
      if FileName.isStandard name then .ok .standardOutput
      else
        (Activity.creatingOutput name).around (Failure.blame .file ((files.target name).map .file))

/-- The text of rows, with a new line at its end. -/
def rowsText (compact : Bool) (rows : List TypedRecord) : String :=
  let value := Json.array (rows.map TypedRecord.toJson)
  (if compact then value.text else value.prettyText) ++ "\n"

/-- Delivers a schema. In a file it has the format that the name of the file asks for. -/
def deliverSchema (files : Files) (output : Option String) (s : Schema) : Logged Delivery := do
  let onScreen : Delivery := ⟨.standardOutput, s.toJson.prettyText ++ "\n"⟩
  match output with
  | none => pure onScreen
  | some name =>
      if FileName.isStandard name then pure onScreen
      else
        let path ← .ofResult ((Activity.writingSchema name).around (Schema.saveTarget files name))
        .note [.schemaWritten s.fields.length name]
        pure ⟨.file path, (SchemaFormat.ofName name).write s⟩

/-! ### The commands -/

/-- Describes a dataset. -/
def describe (around : Surroundings) (a : CommonArguments) : Logged Delivery := do
  .ofResult (checkLimits a.limits)
  .note [.describing a.input]
  let data ← .ofResult (loadDataset around a.input)
  let records ← records (.inferringSchema a.input) data
  let s ← inferSchema a.limits records
  deliverSchema around.files a.output s

/-- The rows of records that meet the conditions of a clause. -/
def select (s : Schema) (c : WhereClause) (records : List RawRecord) :
    Logged (List TypedRecord) := do
  let rows ← .ofResult (Failure.blame .request (LooseRecords.query records s c))
  let conditions := (c.resolve s).toOption.getD []
  .note (.coerced records.length s.fields.length conditions.length ::
    Event.ofNarrowing (coerceAll records s) conditions)
  pure rows

/-- The first rows, up to a limit. -/
def limitRows (limit : Option Nat) (rows : List TypedRecord) : List TypedRecord :=
  match limit with
  | some limit => rows.take limit
  | none => rows

/-- Queries a dataset. -/
def query (around : Surroundings) (a : QueryArguments) : Logged Delivery := do
  .ofResult (checkLimits a.limits)
  let whereValue ← .ofResult (whereValue around.files a)
  let data ← .ofResult (loadDataset around a.input)
  let records ← records (.readingRecords a.input) data
  let clause ← .ofResult (Failure.blame .request (WhereClause.ofJson whereValue))
  .note [.querying a.input clause.requests.length]
  let s ← schema around.files a records
  .note [.schemaFields s.names]
  let rows ← select s clause records
  let emitted := limitRows a.limit rows
  let place ← .ofResult (place around.files a.output)
  .note [.matched rows.length records.length emitted.length]
  pure ⟨place, rowsText a.compact emitted⟩

/-- Carries out a command. -/
def command (around : Surroundings) : Command → Logged Delivery
  | .describe a => describe around a
  | .query a => query around a

end Run

/-- How a run of the program ends. -/
inductive Ending where
  /-- The command line is not that of a command. -/
  | refused (fault : UsageFault)
  | failed (failure : Failure)
  | delivered (delivery : Delivery)
  deriving DecidableEq, Repr

/-- What comes of a run of the program. -/
structure Outcome where
  events : List Event
  ending : Ending
  deriving DecidableEq, Repr

namespace Outcome

/-- The exit status. -/
def status (o : Outcome) : Nat :=
  match o.ending with
  | .refused .help => 0
  | .refused .version => 0
  | .refused _ => 2
  | .failed _ => 1
  | .delivered _ => 0

/-- The message of a failure. -/
def errorMessage? (o : Outcome) : Option String :=
  match o.ending with
  | .failed failure => some failure.message
  | _ => none

/-- What is written to the standard output. -/
def standardOutput (o : Outcome) : String :=
  match o.ending with
  | .delivered delivery => delivery.standardOutput
  | _ => ""

/-- The files after the run. -/
def files (o : Outcome) (before : Files) : Files :=
  match o.ending with
  | .delivered delivery => delivery.files before
  | _ => before

end Outcome

/-- Runs the program. -/
def run (around : Surroundings) (arguments : List String) : Outcome :=
  match Command.parse arguments with
  | .error fault => ⟨[], .refused fault⟩
  | .ok command =>
      let logged := Run.command around command
      match logged.result with
      | .ok delivery => ⟨logged.events, .delivered delivery⟩
      | .error failure => ⟨logged.events, .failed failure⟩

end LooseRecords
