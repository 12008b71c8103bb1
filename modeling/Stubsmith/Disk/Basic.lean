import Stubsmith.Disk.Tree
import Stubsmith.Path

/-!
# The disk

Following paths through a tree of directories, and the three things done there: making a directory,
writing a file and reading one. There are no links. Every name on the way must be there and every
place that is passed must be a directory; the first obstacle decides the fault.
-/

namespace Stubsmith

/-- Why something on the disk could not be done. -/
inductive DiskFault where
  | notFound
  | notADirectory
  | isADirectory
  | alreadyExists
  /-- A name or path longer than the disk allows. -/
  | invalidFilename
  /-- A path that holds the null character. -/
  | invalidInput
  /-- A file that is no UTF-8 text. -/
  | invalidData
  deriving DecidableEq, Repr

/-- A tree, and the place in it where relative paths start. -/
structure Disk where
  root : Tree := .directory []
  workingDirectory : List String := []

namespace Disk

/-- The most bytes that a name may have. -/
def maxNameLength : Nat :=
  255

/-- A path must have fewer bytes than this. -/
def pathLimit : Nat :=
  4096

/-- What stands at a place. -/
def at? (d : Disk) (place : List String) : Option Tree :=
  d.root.at? place

/-- Whether a directory stands at a place. -/
def isDirectoryAt (d : Disk) (place : List String) : Bool :=
  match d.at? place with
  | some t => t.isDirectory
  | none => false

/-- Takes one step from a directory: a dot stays, two dots go up, a name goes down to its entry. -/
def step (d : Disk) (place : List String) (name : String) : Except DiskFault (List String) :=
  if !d.isDirectoryAt place then .error .notADirectory
  else if name = "." then .ok place
  else if name = ".." then .ok place.dropLast
  else if maxNameLength < name.utf8ByteSize then .error .invalidFilename
  else if (d.at? (place ++ [name])).isSome then .ok (place ++ [name])
  else .error .notFound

/-- Takes the steps of several names. -/
def walk (d : Disk) : List String → List String → Except DiskFault (List String)
  | place, [] => .ok place
  | place, name :: rest => do
    let place ← d.step place name
    d.walk place rest

/-- Faults of a path that show before the disk is looked at. -/
def checkPath (p : Path) : Except DiskFault Unit :=
  if p.text.toList.contains '\x00' then .error .invalidInput
  else if p.text.isEmpty then .error .notFound
  else if pathLimit ≤ p.text.utf8ByteSize then .error .invalidFilename
  else .ok ()

/-- Where the path starts. -/
def start (d : Disk) (p : Path) : List String :=
  if p.isAbsolute then [] else d.workingDirectory

/-- The place that a path leads to: a directory that is there, and the last name, which may be new.
There is no last name if the path ends in dots or has no names at all. -/
def resolve (d : Disk) (p : Path) : Except DiskFault (List String × Option String) := do
  checkPath p
  match p.names.reverse with
  | [] => return (d.start p, none)
  | last :: above =>
    let place ← d.walk (d.start p) above.reverse
    if !d.isDirectoryAt place then .error .notADirectory
    else if last = "." ∨ last = ".." then .ok (place, none)
    else if maxNameLength < last.utf8ByteSize then .error .invalidFilename
    else .ok (place, some last)

/-- Whether the path leads to a directory. -/
def isDirectory (d : Disk) (p : Path) : Bool :=
  match checkPath p with
  | .error _ => false
  | .ok _ =>
    match d.walk (d.start p) p.names with
    | .error _ => false
    | .ok place => d.isDirectoryAt place

/-- Puts something at a place. -/
def put (d : Disk) (place : List String) (t : Tree) : Disk :=
  { d with root := d.root.setAt place t }

/-- Makes one directory. -/
def makeDirectory (d : Disk) (p : Path) : Except DiskFault Disk := do
  match ← d.resolve p with
  | (_, none) => .error .alreadyExists
  | (place, some name) =>
    if (d.at? (place ++ [name])).isSome then .error .alreadyExists
    else .ok (d.put (place ++ [name]) (.directory []))

/-- Writes a file, in place of the one that may be there. A path that ends in a slash never names a
file. -/
def writeBytes (d : Disk) (p : Path) (content : ByteArray) : Except DiskFault Disk := do
  match ← d.resolve p with
  | (_, none) => .error .isADirectory
  | (place, some name) =>
    if p.endsInSlash ∨ d.isDirectoryAt (place ++ [name]) then .error .isADirectory
    else .ok (d.put (place ++ [name]) (.file content))

/-- Reads a file. -/
def readBytes (d : Disk) (p : Path) : Except DiskFault ByteArray := do
  match ← d.resolve p with
  | (_, none) => .error .isADirectory
  | (place, some name) =>
    match d.at? (place ++ [name]) with
    | none => .error .notFound
    | some (.directory _) => .error .isADirectory
    | some (.file content) => if p.endsInSlash then .error .notADirectory else .ok content

/-- Reads a file as text. -/
def readText (d : Disk) (p : Path) : Except DiskFault String := do
  match String.fromUTF8? (← d.readBytes p) with
  | some s => .ok s
  | none => .error .invalidData

end Disk

end Stubsmith
