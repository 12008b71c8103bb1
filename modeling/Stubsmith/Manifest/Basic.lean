import Stubsmith.Data.Word
import Stubsmith.Manifest.Scope
import Stubsmith.Model.Decode
import Stubsmith.Toml.Reader

/-!
# Manifests

A manifest holds the configuration of a pass and the declarations that it runs over.
`Manifest.parse` reads one from TOML and checks the names that go into the generated file.
-/

namespace Stubsmith

/-- The configuration of a pass with its corpus. -/
structure Manifest where
  configuration : Configuration := {}
  declarations : List Declaration := []

mutual

/-- Whether all whole numbers in the tree fit signed words of 64 bits. -/
def Data.fitsSigned : Data → Bool
  | .integer n => Word.fitsSigned n
  | .list items => Data.itemsFitSigned items
  | .record fields => Data.fieldsFitSigned fields
  | _ => true

/-- Whether all whole numbers in the trees fit. -/
def Data.itemsFitSigned : List Data → Bool
  | [] => true
  | d :: rest => d.fitsSigned && Data.itemsFitSigned rest

/-- Whether all whole numbers in the fields fit. -/
def Data.fieldsFitSigned : List (String × Data) → Bool
  | [] => true
  | (_, d) :: rest => d.fitsSigned && Data.fieldsFitSigned rest

end

namespace Manifest

/-- Reads one field of a manifest; unknown ones are passed over. -/
def readSlot (m : Manifest) (key : String) (d : Data) : Except DataFault Manifest :=
  if key = "processor" then return { m with configuration := ← Configuration.ofData .toml d }
  else if key = "declarations" then
    return { m with declarations := ← d.toListOf (Declaration.ofData .toml) }
  else .ok m

/-- Reads a manifest from the tree of a document. -/
def ofData : Data → Except DataFault Manifest
  | .record fields => Data.readFields readSlot {} fields
  | d => .error (.mismatch d.found (.shape "Manifest"))

/-- Checks the names of the configuration: marker, name argument, file name, package. -/
def checkNames (m : Manifest) (source : Source) : Except ManifestFault Unit := do
  let scope := ({ source } : Scope).enter "processor"
  let c := m.configuration
  scope.checkQualifiedName c.marker "marker"
  scope.checkName c.nameArgument "name argument"
  scope.checkName c.fileName "file name"
  scope.checkQualifiedName c.package "package"

/-- The fault of a document whose data do not describe a manifest. What is wrong is told only if the
document can be read as plain data of signed words and floats. -/
def dataFault (source : Source) (d : Data) (fault : DataFault) : ManifestFault :=
  .malformed source (if d.fitsSigned then some fault else none)

/-- Reads and checks a manifest. -/
def parse (source : Source) : Except ManifestFault Manifest :=
  match Toml.parse? source.text with
  | none => .error (.malformed source none)
  | some d =>
    match ofData d with
    | .error fault => .error (dataFault source d fault)
    | .ok m =>
      match m.checkNames source with
      | .error fault => .error fault
      | .ok _ => .ok m

end Manifest

/-- A manifest with the file that it was read from. -/
structure ManifestFile where
  path : Path
  content : String
  manifest : Manifest

/-- Reads and checks the manifest in a file. -/
def ManifestFile.read (disk : Disk) (path : Path) : Except ManifestFault ManifestFile :=
  match disk.readText path with
  | .error fault => .error (.unreadable path fault)
  | .ok content =>
    match Manifest.parse { name := path.text, text := content } with
    | .error fault => .error fault
    | .ok manifest => .ok { path, content, manifest }

end Stubsmith
