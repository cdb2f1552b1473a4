import LooseRecords.CommandLine.Files
import LooseRecords.Inference
import LooseRecords.Schema.Json
import LooseRecords.Shorthand
import LooseRecords.Text.Quoted

/-!
# Failed runs

A run fails for one cause. The message names what was being done, from the outermost activity to the
innermost, and then the cause.
-/

namespace LooseRecords

/-- What a run is doing. -/
inductive Activity where
  | openingDataset (name : String)
  | parsingDataset (name : String)
  | inferringSchema (name : String)
  | readingRecords (name : String)
  | parsingWhere
  | readingWhereFile (name : String)
  | parsingWhereFile (name : String)
  | loadingSchema (name : String)
  | openingSchema (name : String)
  | parsingSchema
  | validatingSchema (name : String)
  | writingSchema (name : String)
  | creatingSchema (name : String)
  | creatingOutput (name : String)
  deriving DecidableEq, Repr

namespace Activity

/-- An activity that has to do with a file. -/
def onFile (what name : String) : String :=
  what ++ " " ++ Text.Quotation.fileName.quote name

/-- How messages name an activity. -/
def message : Activity → String
  | openingDataset name => onFile "Opening dataset" name
  | parsingDataset name => onFile "Parsing JSON dataset" name
  | inferringSchema name => onFile "Inferring schema from" name
  | readingRecords name => onFile "Reading records from" name
  | parsingWhere => "Parsing --where JSON"
  | readingWhereFile name => onFile "Reading where clause from" name
  | parsingWhereFile name => onFile "Parsing where clause in" name
  | loadingSchema name => onFile "Loading schema from" name
  | openingSchema name => onFile "Opening schema file" name
  | parsingSchema => "Parsing schema JSON"
  | validatingSchema name => onFile "Validating schema file" name
  | writingSchema name => onFile "Writing schema to" name
  | creatingSchema name => onFile "Creating schema file" name
  | creatingOutput name => onFile "Creating output file" name

end Activity

/-- Why a run fails. -/
inductive Cause where
  | file (fault : FileFault)
  | json (fault : Json.Fault)
  | schema (fault : DecodeFault)
  /-- A schema file is not the YAML of a schema. -/
  | yaml
  | request (fault : RequestError)
  | shorthand (fault : Shorthand.Fault)
  /-- No number of values lies between the limits. -/
  | thresholds (limits : Thresholds)
  /-- A field is constrained by the where clause and by a shorthand. -/
  | constrainedTwice (field : String)
  deriving DecidableEq, Repr

/-- The message of a cause. -/
def Cause.message : Cause → String
  | .file fault => fault.message
  | .json fault => fault.message
  | .schema fault => fault.message
  | .yaml => "Parsing schema YAML"
  | .request fault => fault.message
  | .shorthand fault => fault.message
  | .thresholds limits =>
      "--min-options (" ++ Digits.text limits.least ++ ") cannot exceed --max-options (" ++
        Digits.text limits.most ++ ")"
  | .constrainedTwice field =>
      "Field '" ++ field ++ "' is constrained by both the where clause and --filter"

/-- A cause with the activities during which it came up, outermost first. -/
structure Failure where
  activities : List Activity
  cause : Cause
  deriving DecidableEq, Repr

/-- The message of a failure. -/
def Failure.message (f : Failure) : String :=
  String.intercalate ": " (f.activities.map (·.message) ++ [f.cause.message])

/-- A failure during an activity. -/
def Failure.during (activity : Activity) (f : Failure) : Failure :=
  { f with activities := activity :: f.activities }

/-- Says during which activity something was done. -/
def Activity.around {α : Type} (activity : Activity) (result : Except Failure α) :
    Except Failure α :=
  result.mapError (·.during activity)

/-- Takes the fault of a result for the cause of a failure. -/
def Failure.blame {ε α : Type} (cause : ε → Cause) (result : Except ε α) : Except Failure α :=
  result.mapError fun fault => ⟨[], cause fault⟩

end LooseRecords
