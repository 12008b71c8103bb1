import Stubsmith.Disk.Basic

/-!
# Writing a file with its directories

`Disk.writeFile` makes the directories above a file that are missing and then writes the file. If it
fails half-way, the directories made until then stay, and no file has changed.
-/

namespace Stubsmith

/-- Why a file was not written. -/
inductive WriteFault where
  | directory (parent : Path) (fault : DiskFault)
  | file (path : Path) (fault : DiskFault)
  deriving DecidableEq, Repr

namespace Disk

/-- Whether nothing has to be made for the path: it is empty, or the root. -/
def isBase (p : Path) : Bool :=
  p.text.isEmpty || p.parent?.isNone

/-- Makes a directory, or finds it there. -/
def ensureDirectory (d : Disk) (p : Path) : Except DiskFault Disk :=
  match d.makeDirectory p with
  | .ok d => .ok d
  | .error fault => if fault = .alreadyExists ∧ d.isDirectory p then .ok d else .error fault

/-- Makes the directories one after another. The disk keeps those made before a fault. -/
def ensureAll (d : Disk) : List Path → Disk × Except DiskFault Unit
  | [] => (d, .ok ())
  | p :: rest =>
    match d.ensureDirectory p with
    | .ok d => d.ensureAll rest
    | .error fault => (d, .error fault)

/-- Goes up the list of a directory and its ancestors until one can be made or is there, then comes
down again and makes the ones passed over, which are collected in `missing`. -/
def ensureUpwards (d : Disk) (missing : List Path) : List Path → Disk × Except DiskFault Unit
  | [] => d.ensureAll missing
  | p :: above =>
    if isBase p then d.ensureAll missing
    else
      match d.ensureDirectory p with
      | .ok d => d.ensureAll missing
      | .error .notFound => d.ensureUpwards (p :: missing) above
      | .error fault => (d, .error fault)

/-- Makes a directory with all that is missing above it. -/
def makeDirectories (d : Disk) (p : Path) : Disk × Except DiskFault Unit :=
  d.ensureUpwards [] p.ancestors

/-- Writes a text file, making the directories above it as needed. -/
def writeFile (d : Disk) (p : Path) (content : String) : Disk × Except WriteFault Unit :=
  let made : Disk × Except WriteFault Unit :=
    match p.parent? with
    | none => (d, .ok ())
    | some parent =>
      match d.makeDirectories parent with
      | (d, .ok _) => (d, .ok ())
      | (d, .error fault) => (d, .error (.directory parent fault))
  match made with
  | (d, .error fault) => (d, .error fault)
  | (d, .ok _) =>
    match d.writeBytes p content.toUTF8 with
    | .ok d => (d, .ok ())
    | .error fault => (d, .error (.file p fault))

end Disk

end Stubsmith
