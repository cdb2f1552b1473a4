import LooseRecords.CommandLine.Run

/-!
# The program

Looks at the files that the command line names, runs, and writes what comes of it. The environment
variable `LOOSE_RECORDS_LOG` set to `debug` shows the whole journal.
-/

namespace LooseRecords
namespace Program

open Text (Symbol)

/-- The symbols of the content of a file. -/
def symbols (content : ByteArray) : List Symbol :=
  Symbol.decode content.toList

/-- The path from the root, as a name. -/
def rootedName (path : Path) : String :=
  "/" ++ String.intercalate "/" path

/-- What lies at a path. -/
def look (path : Path) : IO (Option Files.Node) := do
  try
    pure (some (.file (symbols (← IO.FS.readBinFile (rootedName path)))))
  catch
    | .noFileOrDirectory .. => pure none
    | .inappropriateType .. => pure (some .directory)
    | fault => throw fault

/-- Adds what lies along a name, up to the first step that leads nowhere. -/
def explore (files : Files) (path : Path) : List (List Char) → IO Files
  | [] => pure files
  | name :: rest => do
      let next := Files.step path name
      match ← look next with
      | none => pure files
      | some node => explore { files with nodes := (next, node) :: files.nodes } next rest

/-- The names of files that a command line holds. A hyphen names a file only where no data are read
or written. -/
def fileNames : Except CommandLine.UsageFault CommandLine.Command → List String
  | .ok (.describe a) => data a
  | .ok (.query a) => data a.toCommonArguments ++ a.whereFile.toList ++ a.schema.toList
  | .error _ => []
where
  /-- The names of the files for data. -/
  data (a : CommandLine.CommonArguments) : List String :=
    (a.input :: a.output.toList).filter (!FileName.isStandard ·)

/-- Whether a command reads the standard input. -/
def readsStandardInput : Except CommandLine.UsageFault CommandLine.Command → Bool
  | .ok (.describe a) => FileName.isStandard a.input
  | .ok (.query a) => FileName.isStandard a.input
  | .error _ => false

/-- Reads a stream to its end. -/
partial def readAll (stream : IO.FS.Stream) (content : ByteArray) : IO ByteArray := do
  let chunk ← stream.read 65536
  if chunk.isEmpty then pure content else readAll stream (content ++ chunk)

/-- What the run of a command line can read: the files that it names, and the standard input. -/
def lookAround (arguments : List String) : IO Surroundings := do
  let command := CommandLine.Command.parse arguments
  let directory := (FileName.steps ((← IO.getEnv "PWD").getD "/")).map String.ofList
  let mut files : Files := ⟨directory, []⟩
  for name in fileNames command do
    let start := if FileName.isAbsolute name then [] else directory
    files ← explore files start (FileName.steps name)
  let input ← if readsStandardInput command then readAll (← IO.getStdin) .empty else pure .empty
  pure ⟨files, symbols input⟩

end Program
end LooseRecords

open LooseRecords in
/-- Runs the program on the command line and ends with its exit status. -/
def main (arguments : List String) : IO UInt32 := do
  let around ← Program.lookAround arguments
  let outcome := run around arguments
  let least : Level := if (← IO.getEnv "LOOSE_RECORDS_LOG") = some "debug" then .debug else .info
  for event in Event.atLeast least outcome.events do
    IO.eprintln event.line
  match outcome.ending with
  | .refused fault => IO.eprintln fault.message
  | .failed failure => IO.eprintln ("error: " ++ failure.message)
  | .delivered delivery =>
      match delivery.place with
      | .standardOutput => IO.print delivery.text
      | .file path => IO.FS.writeFile (Program.rootedName path) delivery.text
  pure outcome.status.toUInt32
