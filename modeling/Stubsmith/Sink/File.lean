import Stubsmith.Sink.Basic

/-!
# Writing units to files

A unit becomes one file below a root directory: a directory for every segment of the package, and a
file with the extension of Kotlin sources. The file is written when the unit is closed.
-/

namespace Stubsmith

/-- A source file, by package and name. -/
structure SourceFile where
  package : String
  fileName : String
  content : String
  deriving DecidableEq, Repr

/-- Where the file goes below `base`. -/
def SourceFile.path (f : SourceFile) (base : Path) : Path :=
  (base.join (.ofPackage f.package)).join (.ofText (f.fileName ++ ".kt"))

/-- A disk with the root for the files, the paths written so far in order, and the unit that is
open. -/
structure FileStore where
  root : Path
  disk : Disk
  written : List Path := []
  current : Option SourceFile := none

namespace FileStore

/-- The operations on units that become files. -/
def sink : Sink FileStore where
  openUnit := fun s package fileName =>
    ({ s with current := some { package, fileName, content := "" } }, .ok ())
  append := fun s text =>
    ({ s with current := s.current.map fun f => { f with content := f.content ++ text } }, .ok ())
  close := fun s =>
    match s.current with
    | none => (s, .ok ())
    | some f =>
      let path := f.path s.root
      match s.disk.writeFile path f.content with
      | (disk, .ok _) => ({ s with disk, written := s.written ++ [path], current := none }, .ok ())
      | (disk, .error fault) => ({ s with disk, current := none }, .error (.write fault))

end FileStore

end Stubsmith
