import LooseRecords.Inference

/-!
# Command lines

The program has two commands, `describe` and `query`, each with options of its own. Words are taken
from left to right. The value of an option is the rest of its word, after an equality sign where one
stands, or else the next word; a value from the next word is looked at only when another option or
the end of the line comes. Words that no option accepts are a fault at once.
-/

namespace LooseRecords
namespace CommandLine

/-- Why a command line is not run. -/
inductive UsageFault where
  /-- The help was asked for. -/
  | help
  /-- The version was asked for. -/
  | version
  /-- There is no command. -/
  | noCommand
  | unknownCommand
  | unknownArgument
  /-- An option has no value, or an empty one where a file is to be named. -/
  | noValue
  /-- A value is attached to an option that takes none. -/
  | surplusValue
  /-- A value is not of the kind that is due. -/
  | badValue
  /-- An option is given twice, or with one that excludes it. -/
  | conflict
  | noInput
  deriving DecidableEq, Repr

/-- The message of a fault. -/
def UsageFault.message : UsageFault → String
  | .help => "Commands: describe, query"
  | .version => "Version 0.1.0"
  | .noCommand => "A command is missing"
  | .unknownCommand => "There is no such command"
  | .unknownArgument => "There is no such option"
  | .noValue => "An option has no value"
  | .surplusValue => "An option takes no value"
  | .badValue => "The value of an option is not valid"
  | .conflict => "Options exclude each other"
  | .noInput => "The input is missing"

/-- The options. -/
inductive OptionName where
  | input
  | output
  | whereText
  | whereFile
  | filter
  | schema
  | limit
  | compact
  | minOptions
  | maxOptions
  | help
  deriving DecidableEq, Repr

namespace OptionName

/-- The word for an option, after two hyphens. -/
def long : OptionName → String
  | input => "input"
  | output => "output"
  | whereText => "where"
  | whereFile => "where-file"
  | filter => "filter"
  | schema => "schema"
  | limit => "limit"
  | compact => "compact"
  | minOptions => "min-options"
  | maxOptions => "max-options"
  | help => "help"

/-- The letter for an option, after one hyphen. -/
def short? : OptionName → Option Char
  | input => some 'i'
  | output => some 'o'
  | schema => some 's'
  | help => some 'h'
  | _ => none

/-- Whether an option has a value. -/
def takesValue : OptionName → Bool
  | compact | help => false
  | _ => true

end OptionName

/-- The commands. -/
inductive CommandName where
  | describe
  | query
  deriving DecidableEq, Repr

namespace CommandName

/-- The command with the given name. -/
def ofName? (name : String) : Option CommandName :=
  if name = "describe" then some .describe else if name = "query" then some .query else none

/-- The options of a command. -/
def options : CommandName → List OptionName
  | describe => [.input, .output, .minOptions, .maxOptions, .help]
  | query =>
      [.input, .output, .whereText, .whereFile, .filter, .schema, .limit, .compact, .minOptions,
        .maxOptions, .help]

end CommandName

/-- The values of options. -/
structure Settings where
  input : Option String := none
  output : Option String := none
  whereText : Option String := none
  whereFile : Option String := none
  filters : List String := []
  schema : Option String := none
  limit : Option Nat := none
  compact : Bool := false
  minOptions : Option Nat := none
  maxOptions : Option Nat := none
  deriving DecidableEq, Repr

namespace Settings

/-- Checks that an option has no value yet. -/
def once {α : Type} (current : Option α) : Except UsageFault Unit :=
  if current.isSome then .error .conflict else .ok ()

/-- The name of a file, which is not empty. -/
def fileName (value : String) : Except UsageFault String :=
  if value = "" then .error .noValue else .ok value

/-- A number of a word without sign: digits, with a plus sign before them allowed. -/
def count (value : String) : Except UsageFault Nat :=
  match Scalar.wordOfDigits? 10 value.toList with
  | some n => .ok n
  | none => .error .badValue

/-- Gives an option a value. -/
def give (s : Settings) (value : String) : OptionName → Except UsageFault Settings
  | .input => do once s.input; .ok { s with input := some (← fileName value) }
  | .output => do once s.output; .ok { s with output := some (← fileName value) }
  | .whereText => do once s.whereText; .ok { s with whereText := some value }
  | .whereFile => do once s.whereFile; .ok { s with whereFile := some (← fileName value) }
  | .filter => .ok { s with filters := s.filters ++ [value] }
  | .schema => do once s.schema; .ok { s with schema := some (← fileName value) }
  | .limit => do once s.limit; .ok { s with limit := some (← count value) }
  | .minOptions => do once s.minOptions; .ok { s with minOptions := some (← count value) }
  | .maxOptions => do once s.maxOptions; .ok { s with maxOptions := some (← count value) }
  | .compact | .help => .error .surplusValue

/-- Turns on an option that has no value. -/
def turnOn (s : Settings) : OptionName → Except UsageFault Settings
  | .help => .error .help
  | .compact => if s.compact then .error .conflict else .ok { s with compact := true }
  | _ => .error .noValue

end Settings

/-- What was read so far: the settings, and an option that waits for its value or whose value from
the next word is not looked at yet. -/
structure Progress where
  settings : Settings := {}
  pending : Option (OptionName × Option String) := none
  deriving DecidableEq, Repr

namespace Progress

/-- Settles the pending option. -/
def settle (p : Progress) : Except UsageFault Settings :=
  match p.pending with
  | none => .ok p.settings
  | some (_, none) => .error .noValue
  | some (option, some value) => p.settings.give value option

/-- Takes an option, with the value that is attached to it. -/
def takeOption (p : Progress) (option : OptionName) (attached : Option String) :
    Except UsageFault Progress :=
  if option.takesValue then do
    let settings ← p.settle
    match attached with
    | some value => .ok ⟨← settings.give value option, none⟩
    | none => .ok ⟨settings, some (option, none)⟩
  else
    match attached with
    | some _ => .error .surplusValue
    | none => do .ok ⟨← (← p.settle).turnOn option, none⟩

/-- Takes an option that is named by a word: up to an equality sign its name, after it its value. -/
def takeLong (p : Progress) (options : List OptionName) (word : List Char) :
    Except UsageFault Progress :=
  let name := String.ofList (word.takeWhile (· != '='))
  let attached := match word.dropWhile (· != '=') with
    | [] => none
    | _ :: value => some (String.ofList value)
  match options.find? (·.long = name) with
  | some option => p.takeOption option attached
  | none => .error .unknownArgument

/-- Takes options that are named by letters, up to one that takes the rest of the word as its value.
-/
def takeShort (p : Progress) (options : List OptionName) : List Char → Except UsageFault Progress
  | [] => .ok p
  | letter :: rest =>
      match options.find? (·.short? = some letter) with
      | none => .error .unknownArgument
      | some option =>
          if option.takesValue then
            match rest with
            | [] => p.takeOption option none
            | '=' :: value => p.takeOption option (some (String.ofList value))
            | value => p.takeOption option (some (String.ofList value))
          else do takeShort (← p.takeOption option none) options rest

/-- Takes a word that is no option: the value that an option waits for. -/
def takeWord (p : Progress) (word : String) : Except UsageFault Progress :=
  match p.pending with
  | some (option, none) => .ok { p with pending := some (option, some word) }
  | _ => .error .unknownArgument

/-- Takes the words after the name of a command. After a word of two hyphens no word is accepted. -/
def takeAll (p : Progress) (options : List OptionName) : List String → Except UsageFault Progress
  | [] => .ok p
  | word :: rest => do
      match word.toList with
      | ['-', '-'] => if rest = [] then .ok p else .error .unknownArgument
      | '-' :: '-' :: name => takeAll (← p.takeLong options name) options rest
      | '-' :: letter :: letters => takeAll (← p.takeShort options (letter :: letters)) options rest
      | _ => takeAll (← p.takeWord word) options rest

end Progress

/-- What a command works on. -/
structure CommonArguments where
  input : String
  output : Option String
  limits : Thresholds
  deriving DecidableEq, Repr

/-- The arguments of a query. -/
structure QueryArguments extends CommonArguments where
  whereText : Option String
  whereFile : Option String
  filters : List String
  schema : Option String
  limit : Option Nat
  compact : Bool
  deriving DecidableEq, Repr

/-- A command with its arguments. -/
inductive Command where
  | describe (arguments : CommonArguments)
  | query (arguments : QueryArguments)
  deriving DecidableEq, Repr

namespace Settings

/-- The command that settings make. -/
def command (s : Settings) (name : CommandName) : Except UsageFault Command :=
  if s.whereText.isSome && s.whereFile.isSome then .error .conflict
  else
    match s.input with
    | none => .error .noInput
    | some input =>
        let limits : Thresholds :=
          ⟨s.minOptions.getD ({} : Thresholds).least, s.maxOptions.getD ({} : Thresholds).most⟩
        match name with
        | .describe => .ok (.describe ⟨input, s.output, limits⟩)
        | .query =>
            .ok (.query ⟨⟨input, s.output, limits⟩, s.whereText, s.whereFile, s.filters, s.schema,
              s.limit, s.compact⟩)

end Settings

namespace Command

/-- Reads the words after the name of a command. -/
def ofWords (name : CommandName) (words : List String) : Except UsageFault Command := do
  let progress ← ({} : Progress).takeAll name.options words
  let settings ← progress.settle
  settings.command name

/-- The fault of a request for the help of the named commands: the help is shown where the names
make sense. -/
def helpFault : List String → UsageFault
  | [] => .help
  | [name] => if name = "help" ∨ (CommandName.ofName? name).isSome then .help else .unknownCommand
  | _ => .unknownCommand

/-- The fault of options without a command. -/
def optionFault : List Char → UsageFault
  | '-' :: name =>
      let word := name.takeWhile (· != '=')
      let known : Option UsageFault :=
        if word = ['h', 'e', 'l', 'p'] then some .help
        else if word = ['v', 'e', 'r', 's', 'i', 'o', 'n'] then some .version
        else none
      match known with
      | none => .unknownArgument
      | some fault => if word = name then fault else .surplusValue
  | 'h' :: _ => .help
  | 'V' :: _ => .version
  | _ => .unknownArgument

/-- Reads a command line. -/
def parse : List String → Except UsageFault Command
  | [] => .error .noCommand
  | word :: rest =>
      match word.toList with
      | ['-', '-'] =>
          match rest with
          | [] => .error .noCommand
          | word :: _ =>
              if word = "help" ∨ (CommandName.ofName? word).isSome then .error .unknownArgument
              else .error .unknownCommand
      | '-' :: c :: cs => .error (optionFault (c :: cs))
      | _ =>
          if word = "help" then .error (helpFault rest)
          else
            match CommandName.ofName? word with
            | some name => ofWords name rest
            | none => .error .unknownCommand

end Command
end CommandLine
end LooseRecords
