import Stubsmith.Command.Run

/-!
# The program

Reads the manifest that the command line names, runs the command on a disk that holds this file
alone, and then writes what the command has written there to the disk of the machine.
-/

namespace Stubsmith

/-- The manifest that a command line names. -/
def manifestPath? (arguments : List String) : Option String :=
  match Request.ofArguments arguments with
  | .ok (.run (.generate config _ _)) => some config
  | .ok (.run (.check config _)) => some config
  | _ => none

/-- A disk that holds one file at a path. -/
def diskWithFile (path : Path) (content : ByteArray) : Disk :=
  let disk := (({} : Disk).makeDirectories (path.parent?.getD .empty)).1
  match disk.writeBytes path content with
  | .ok disk => disk
  | .error _ => disk

/-- The disk that a command runs on. -/
def loadDisk (arguments : List String) : IO Disk := do
  match manifestPath? arguments with
  | none => return {}
  | some path =>
    try
      return diskWithFile (.ofText path) (← IO.FS.readBinFile path)
    catch _ =>
      return {}

/-- Writes a file with its directories. -/
def storeFile (path : Path) (content : String) : IO Unit := do
  if let some parent := path.parent? then
    if !parent.text.isEmpty then
      IO.FS.createDirAll parent.text
  IO.FS.writeFile path.text content

end Stubsmith

/-- Runs the command line of the program. -/
def main (arguments : List String) : IO UInt32 := do
  let disk ← Stubsmith.loadDisk arguments
  let result := Stubsmith.runCommandLine disk arguments
  for path in result.written do
    if let .ok content := result.disk.readText path then
      Stubsmith.storeFile path content
  IO.print result.terminal.out
  IO.eprint result.terminal.err
  return result.exitCode.toUInt32
