import Stubsmith.Command.Line
import Stubsmith.Json.Printer
import Stubsmith.Report.OfManifest

/-!
# Running a command

What a command line does to a disk and shows on a terminal, and with which code it exits: zero, one
if something is wrong with the manifest, its declarations or the disk, two if the command line is
not understood.
-/

namespace Stubsmith

/-- What a command leaves behind. -/
structure CommandResult where
  exitCode : Nat
  terminal : TerminalText
  disk : Disk
  /-- The files that were written, by the paths that were used for them. -/
  written : List Path := []

namespace Command

/-- The name of the program with its version. -/
def versionLine : String :=
  "fungen 0.1.0"

/-- How the program is used. -/
def helpLines : List String :=
  ["Generate Kotlin functions from annotated object declarations", "",
    "Usage: fungen <COMMAND>", "",
    "Commands:",
    "  generate     Generate functions from fungen.toml",
    "  check        Run a pass without writing anything and report diagnostics",
    "  completions  Generate shell completions",
    "  help         Print this message", "",
    "Options:",
    "  -h, --help     Print help",
    "  -V, --version  Print version"]

/-- Several lines on the first stream. -/
def outLines (lines : List String) : TerminalText :=
  { out := String.join (lines.map (· ++ "\n")) }

/-- A script that completes the names of the commands. -/
def completionScript (shell : Shell) : String :=
  let words := " ".intercalate names
  match shell with
  | .bash => "complete -W '" ++ words ++ "' fungen"
  | .zsh => "compctl -k '(" ++ words ++ ")' fungen"
  | .fish => "complete -c fungen -f -a '" ++ words ++ "'"
  | .elvish =>
    "set edit:completion:arg-completer[fungen] = \x7b|@a| put " ++ words ++ " \x7d"
  | .powershell =>
    "Register-ArgumentCompleter -Native -CommandName fungen -ScriptBlock \x7b '"
      ++ words ++ "'.Split(' ') \x7d"

/-- A chain of causes, a line each. -/
def chainText (chain : List ChainLink) : String :=
  let words := chain.map fun
    | .message text => text
    | .disk .notFound => "no such file or directory"
    | .disk .notADirectory => "not a directory"
    | .disk .isADirectory => "is a directory"
    | .disk .alreadyExists => "file exists"
    | .disk .invalidFilename => "file name too long"
    | .disk .invalidInput => "path holds a null character"
    | .disk .invalidData => "file is not valid UTF-8"
  "Error: " ++ "\n  caused by: ".intercalate words

/-- What is said about a manifest that was not accepted. -/
def manifestFaultText (fault : ManifestFault) : String :=
  let place :=
    match fault.source?, fault.span? with
    | some source, some span => " (" ++ source.name ++ ", byte " ++ toString span.offset ++ ")"
    | some source, none => " (" ++ source.name ++ ")"
    | none, _ => ""
  let help :=
    match fault.help? with
    | some help => "\n  help: " ++ help
    | none => ""
  "Error: " ++ fault.message ++ place ++ help

/-- Checks the manifest at a path. -/
def runCheck (disk : Disk) (config : Path) (json : Bool) : CommandResult :=
  match ManifestFile.read disk config with
  | .error fault => { exitCode := 1, terminal := .errLine (manifestFaultText fault), disk }
  | .ok file =>
    match file.manifest.check file.path with
    | .error fault => { exitCode := 1, terminal := .errLine (chainText fault.chain), disk }
    | .ok report =>
      { exitCode := if report.isValid then 0 else 1
        terminal :=
          if json then .outLine (Json.pretty report.toData)
          else ReportItem.terminalAll report.items
        disk }

/-- What is left after a generation. -/
def generateResult (disk : Disk) : Except CommandFault GenerationReport → CommandResult
  | .error fault => { exitCode := 1, terminal := .errLine (chainText fault.chain), disk }
  | .ok report =>
    { exitCode := if report.hasErrors then 1 else 0
      terminal := ReportItem.terminalAll report.items
      disk
      written := match report.result with
        | .written files => files
        | .preview _ => [] }

/-- Generates from the manifest at a path. -/
def runGenerate (disk : Disk) (config output : Path) (dryRun : Bool) : CommandResult :=
  match ManifestFile.read disk config with
  | .error fault => { exitCode := 1, terminal := .errLine (manifestFaultText fault), disk }
  | .ok file =>
    if dryRun then generateResult disk (file.manifest.preview output)
    else
      let (disk, outcome) := file.manifest.generate output disk
      generateResult disk outcome

/-- Runs a command. -/
def run (disk : Disk) : Command → CommandResult
  | generate config output dryRun =>
    runGenerate disk (.ofText config) (.ofText output) dryRun
  | check config json => runCheck disk (.ofText config) json
  | completions shell => { exitCode := 0, terminal := .outLine (completionScript shell), disk }

end Command

/-- Runs a command line. -/
def runCommandLine (disk : Disk) (arguments : List String) : CommandResult :=
  match Request.ofArguments arguments with
  | .error fault => { exitCode := 2, terminal := .errLine ("error: " ++ fault.message), disk }
  | .ok .version => { exitCode := 0, terminal := .outLine Command.versionLine, disk }
  | .ok .help => { exitCode := 0, terminal := Command.outLines Command.helpLines, disk }
  | .ok (.run command) => command.run disk

end Stubsmith
