import LooseRecords.Text.Blank
import LooseRecords.Text.Symbol

/-!
# Files

The files that a run can see, each under the names of the directories that lead to it and its own
name. A directory is there if it is listed, if something lies in it, or if the run takes place in it
or below it.
-/

namespace LooseRecords

open Text (Symbol)

/-- Why a file cannot be used. -/
inductive FileFault where
  | notFound
  | notADirectory
  | isADirectory
  | nameTooLong
  | nulInName
  /-- The content is not UTF-8. -/
  | notText
  deriving DecidableEq, Repr

/-- The message of a fault. -/
def FileFault.message : FileFault → String
  | .notFound => "No such file or directory (os error 2)"
  | .notADirectory => "Not a directory (os error 20)"
  | .isADirectory => "Is a directory (os error 21)"
  | .nameTooLong => "File name too long (os error 36)"
  | .nulInName => "file name contained an unexpected NUL byte"
  | .notText => "stream did not contain valid UTF-8"

/-! ### Names of files -/

namespace FileName

/-- The pieces of a name between its slashes. -/
def pieces : List Char → List (List Char)
  | [] => [[]]
  | c :: rest =>
      if c = '/' then [] :: pieces rest
      else
        match pieces rest with
        | [] => [[c]]
        | piece :: others => (c :: piece) :: others

/-- The steps that a name makes from directory to directory. An empty piece or a single dot makes
none. -/
def steps (name : String) : List (List Char) :=
  (pieces name.toList).filter fun piece => piece != [] && piece != ['.']

/-- Whether a name starts at the root. -/
def isAbsolute (name : String) : Bool :=
  name.toList.head? == some '/'

/-- Whether a name leads to a directory or to nothing: it ends with a slash or with dots. -/
def endsInDirectory (name : String) : Bool :=
  match (pieces name.toList).getLast? with
  | some last => last == [] || last == ['.'] || last == ['.', '.']
  | none => false

/-- Whether a name stands for the standard input or output: it is a hyphen, which slashes may
follow. -/
def isStandard (name : String) : Bool :=
  (pieces name.toList).head? == some ['-'] && steps name == [['-']]

/-- What follows the last dot of the last step of a name, where something stands before that dot. -/
def extension? (name : String) : Option (List Char) :=
  match (steps name).getLast? with
  | none => none
  | some last =>
      if last = ['.', '.'] then none
      else
        let after := last.reverse.takeWhile (· != '.')
        let before := last.reverse.dropWhile (· != '.')
        if before.length ≤ 1 then none else some after.reverse

/-- The most bytes that a step may have. -/
def longestStep : Nat := 255

/-- The most bytes that a name may have. -/
def longestName : Nat := 4095

end FileName

/-! ### What lies where -/

/-- The names of the directories from the root to a file, and of the file. -/
abbrev Path := List String

/-- What a path leads to. -/
inductive Files.Node where
  | file (content : List Symbol)
  | directory
  deriving DecidableEq, Repr

/-- The files and directories that a run can see, and the directory in which it takes place. -/
structure Files where
  directory : Path
  nodes : List (Path × Files.Node)
  deriving DecidableEq, Repr

namespace Files

/-- What lies at a path. -/
def node? (files : Files) (path : Path) : Option Node :=
  match files.nodes.lookup path with
  | some node => some node
  | none =>
      let leadsOn := files.nodes.any fun entry => path.isPrefixOf entry.1
      if leadsOn || path.isPrefixOf files.directory then some .directory else none

/-- The path after a step. Two dots lead back. -/
def step (path : Path) (name : List Char) : Path :=
  if name = ['.', '.'] then path.dropLast else path ++ [String.ofList name]

/-- Follows steps from a directory. Every step but the last has to lead to a directory. -/
def follow (files : Files) (path : Path) : List (List Char) → Except FileFault Path
  | [] => .ok path
  | name :: rest =>
      if FileName.longestStep < (String.ofList name).utf8ByteSize then .error .nameTooLong
      else if rest = [] then .ok (step path name)
      else
        match files.node? (step path name) with
        | some .directory => follow files (step path name) rest
        | some (.file _) => .error .notADirectory
        | none => .error .notFound

/-- The path that a name leads to, whether something lies there or not. -/
def path (files : Files) (name : String) : Except FileFault Path :=
  if '\x00' ∈ name.toList then .error .nulInName
  else if name = "" then .error .notFound
  else if FileName.longestName < name.utf8ByteSize then .error .nameTooLong
  else follow files (if FileName.isAbsolute name then [] else files.directory) (FileName.steps name)

/-- The content of the file with the given name. -/
def read (files : Files) (name : String) : Except FileFault (List Symbol) := do
  let path ← files.path name
  match files.node? path with
  | none => .error .notFound
  | some .directory => .error .isADirectory
  | some (.file content) =>
      if FileName.endsInDirectory name then .error .notADirectory else .ok content

/-- The path of the file with the given name, where such a file can be written. -/
def target (files : Files) (name : String) : Except FileFault Path := do
  let path ← files.path name
  match files.node? path with
  | some .directory => .error .isADirectory
  | some (.file _) => if FileName.endsInDirectory name then .error .notADirectory else .ok path
  | none => if FileName.endsInDirectory name then .error .isADirectory else .ok path

/-- Puts a content at a path. -/
def put (files : Files) (path : Path) (content : List Symbol) : Files :=
  { files with nodes := (path, .file content) :: files.nodes.filter (·.1 != path) }

end Files
end LooseRecords
