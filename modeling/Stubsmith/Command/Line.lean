import Stubsmith.Text.Split

/-!
# Command lines

Which commands there are and how their arguments are written. An option is written in full after two
dashes or as one letter after one dash; its value follows in the same argument, after an equals sign
that a letter does not need, or is the next argument. No option may be given twice, and a value is
never empty and does not begin with a dash unless it is just that.
-/

namespace Stubsmith

/-- A shell for which completions can be printed. -/
inductive Shell where
  | bash
  | elvish
  | fish
  | powershell
  | zsh
  deriving DecidableEq, Repr

/-- The shell of that name. -/
def Shell.ofName? : String → Option Shell
  | "bash" => some bash
  | "elvish" => some elvish
  | "fish" => some fish
  | "powershell" => some powershell
  | "zsh" => some zsh
  | _ => none

/-- A command with its arguments. -/
inductive Command where
  | generate (config output : String) (dryRun : Bool)
  | check (config : String) (json : Bool)
  | completions (shell : Shell)
  deriving DecidableEq, Repr

/-- What a command line asks for. -/
inductive Request where
  | run (command : Command)
  | version
  | help
  deriving DecidableEq, Repr

/-- Why a command line is not understood. -/
inductive UsageFault where
  | noCommand
  | unknownCommand (name : String)
  | unknownOption (option : String)
  | unexpectedArgument (argument : String)
  | unexpectedValue (option value : String)
  | missingValue (option : String)
  | repeatedOption (option : String)
  | missingShell
  | unknownShell (name : String)
  deriving DecidableEq, Repr

/-- The fault in words. -/
def UsageFault.message : UsageFault → String
  | noCommand => "a command is required"
  | unknownCommand name => "unrecognized command '" ++ name ++ "'"
  | unknownOption option => "unexpected option '" ++ option ++ "'"
  | unexpectedArgument argument => "unexpected argument '" ++ argument ++ "'"
  | unexpectedValue option value =>
    "unexpected value '" ++ value ++ "' for '" ++ option ++ "', which takes none"
  | missingValue option => "a value is required for '" ++ option ++ "'"
  | repeatedOption option => "'" ++ option ++ "' cannot be used multiple times"
  | missingShell => "a shell is required"
  | unknownShell name => "unknown shell '" ++ name ++ "'"

namespace Command

/-- An option of a command. -/
structure OptionForm where
  name : String
  letter : Option Char := none
  takesValue : Bool

/-- Where the manifest is. -/
def configOption : OptionForm :=
  { name := "config", letter := some 'c', takesValue := true }

/-- The directory that the generated file is written under. -/
def outputOption : OptionForm :=
  { name := "output", letter := some 'o', takesValue := true }

/-- Whether to preview without writing. -/
def dryRunOption : OptionForm :=
  { name := "dry-run", takesValue := false }

/-- Whether to print the report as JSON. -/
def jsonOption : OptionForm :=
  { name := "json", takesValue := false }

/-- What has been read of the arguments of a command. -/
structure Arguments where
  options : List (String × String) := []
  plain : List String := []
  asksHelp : Bool := false

/-- The option with its dashes. -/
def OptionForm.display (o : OptionForm) : String :=
  "--" ++ o.name

/-- Records an option, which must not have been given before, with its value. -/
def Arguments.give (a : Arguments) (o : OptionForm) (value : String) :
    Except UsageFault Arguments :=
  if (a.options.lookup o.name).isSome then .error (.repeatedOption o.display)
  else if o.takesValue ∧ value.isEmpty then .error (.missingValue o.display)
  else .ok { a with options := a.options ++ [(o.name, value)] }

/-- Whether an argument begins with a dash and goes on. -/
def isOption (argument : String) : Bool :=
  match argument.toList with
  | '-' :: _ :: _ => true
  | _ => false

/-- What a single argument does: it is complete, or it is an option whose value comes next. -/
inductive Reading where
  | done (a : Arguments)
  | needsValue (o : OptionForm) (a : Arguments)

/-- Reads an option written in full; `text` is what stands after the dashes. -/
def readLong (forms : List OptionForm) (a : Arguments) (text : List Char) :
    Except UsageFault Reading :=
  let name := String.ofList (text.takeWhile (· ≠ '='))
  let value := (text.dropWhile (· ≠ '=')).drop 1
  let hasValue := text.contains '='
  let written := "--" ++ name
  match forms.find? (·.name == name) with
  | none =>
    if name = "help" ∧ !hasValue then .ok (.done { a with asksHelp := true })
    else .error (.unknownOption written)
  | some o =>
    if o.takesValue then
      if hasValue then (a.give o (String.ofList value)).map .done else .ok (.needsValue o a)
    else if hasValue then .error (.unexpectedValue written (String.ofList value))
    else (a.give o "").map .done

/-- Reads letters after one dash. A letter that takes a value takes all that follows it. -/
def readLetters (forms : List OptionForm) (a : Arguments) : List Char → Except UsageFault Reading
  | [] => .ok (.done a)
  | letter :: rest =>
    match forms.find? (·.letter == some letter) with
    | none =>
      if letter = 'h' then .ok (.done { a with asksHelp := true })
      else .error (.unknownOption (String.ofList ['-', letter]))
    | some o =>
      if o.takesValue then
        match rest with
        | [] => .ok (.needsValue o a)
        | '=' :: value => (a.give o (String.ofList value)).map .done
        | value => (a.give o (String.ofList value)).map .done
      else
        match a.give o "" with
        | .error fault => .error fault
        | .ok a => readLetters forms a rest

/-- Reads the arguments of a command up to one that asks for help. -/
def readArguments (forms : List OptionForm) (a : Arguments) :
    List String → Except UsageFault Arguments
  | [] => .ok a
  | argument :: rest =>
    if a.asksHelp then .ok a
    else if argument = "--" then .ok { a with plain := a.plain ++ rest }
    else if !isOption argument then
      readArguments forms { a with plain := a.plain ++ [argument] } rest
    else
      let reading :=
        match argument.toList with
        | '-' :: '-' :: text => readLong forms a text
        | _ :: letters => readLetters forms a letters
        | [] => .ok (.done a)
      match reading with
      | .error fault => .error fault
      | .ok (.done a) => readArguments forms a rest
      | .ok (.needsValue o a) =>
        match rest with
        | [] => .error (.missingValue o.display)
        | value :: rest =>
          if isOption value then .error (.missingValue o.display)
          else
            match a.give o value with
            | .error fault => .error fault
            | .ok a => readArguments forms a rest

/-- The value of an option, or its default. -/
def Arguments.valueOr (a : Arguments) (o : OptionForm) (default : String) : String :=
  (a.options.lookup o.name).getD default

/-- Whether an option was given. -/
def Arguments.has (a : Arguments) (o : OptionForm) : Bool :=
  (a.options.lookup o.name).isSome

/-- Where the manifest is expected if nothing is said. -/
def defaultConfig : String :=
  "fungen.toml"

/-- Where the generated file goes if nothing is said. -/
def defaultOutput : String :=
  "build/generated/fungen"

/-- A command that takes no arguments without a dash. -/
def ofOptions (forms : List OptionForm) (make : Arguments → Command) (arguments : List String) :
    Except UsageFault Request :=
  match readArguments forms {} arguments with
  | .error fault => .error fault
  | .ok a =>
    match a.plain with
    | argument :: _ => .error (.unexpectedArgument argument)
    | [] => .ok (if a.asksHelp then .help else .run (make a))

/-- Reads the arguments of the command that generates. -/
def readGenerate : List String → Except UsageFault Request :=
  ofOptions [configOption, outputOption, dryRunOption] fun a =>
    .generate (a.valueOr configOption defaultConfig) (a.valueOr outputOption defaultOutput)
      (a.has dryRunOption)

/-- Reads the arguments of the command that checks. -/
def readCheck : List String → Except UsageFault Request :=
  ofOptions [configOption, jsonOption] fun a =>
    .check (a.valueOr configOption defaultConfig) (a.has jsonOption)

/-- Reads the arguments of the command that prints completions: the name of one shell. -/
def readCompletions (arguments : List String) : Except UsageFault Request :=
  match readArguments [] {} arguments with
  | .error fault => .error fault
  | .ok a =>
    if a.asksHelp then .ok .help
    else
      match a.plain with
      | [] => .error .missingShell
      | name :: rest =>
        match Shell.ofName? name, rest with
        | none, _ => .error (.unknownShell name)
        | some _, argument :: _ => .error (.unexpectedArgument argument)
        | some shell, [] => .ok (.run (.completions shell))

/-- The names of the commands. -/
def names : List String :=
  ["generate", "check", "completions", "help"]

/-- Reads a request for help, on one command or on all. -/
def readHelp : List String → Except UsageFault Request
  | [] => .ok .help
  | [name] => if names.contains name then .ok .help else .error (.unknownCommand name)
  | _ :: name :: _ => .error (.unknownCommand name)

end Command

/-- Reads a command line. -/
def Request.ofArguments : List String → Except UsageFault Request
  | [] => .error .noCommand
  | "generate" :: rest => Command.readGenerate rest
  | "check" :: rest => Command.readCheck rest
  | "completions" :: rest => Command.readCompletions rest
  | "help" :: rest => Command.readHelp rest
  | "--help" :: _ => .ok .help
  | "--version" :: _ => .ok .version
  | first :: _ =>
    match first.toList with
    | '-' :: 'h' :: _ => .ok .help
    | '-' :: 'V' :: _ => .ok .version
    | '-' :: _ :: _ => .error (.unknownOption first)
    | _ => .error (.unknownCommand first)

end Stubsmith
