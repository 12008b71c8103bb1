import Stubsmith.Sink.Basic

/-!
# Collecting units in memory

A sink that never fails and keeps the text of every unit, in the order of opening.
-/

namespace Stubsmith

/-- A unit kept in memory. -/
structure MemoryUnit where
  package : String
  fileName : String
  content : String := ""
  closed : Bool := false
  deriving DecidableEq, Repr

/-- The units opened so far. The last one may still be open. -/
structure MemoryStore where
  finished : List MemoryUnit := []
  current : Option MemoryUnit := none
  deriving DecidableEq, Repr

namespace MemoryStore

/-- All units in the order of opening. -/
def units (m : MemoryStore) : List MemoryUnit :=
  m.finished ++ m.current.toList

/-- The text of the first unit that was opened for the package and file name. -/
def content? (m : MemoryStore) (package fileName : String) : Option String :=
  (m.units.find? fun u => u.package == package && u.fileName == fileName).map (·.content)

/-- The operations on units in memory. -/
def sink : Sink MemoryStore where
  openUnit := fun m package fileName =>
    ({ finished := m.units, current := some { package, fileName } }, .ok ())
  append := fun m text =>
    ({ m with current := m.current.map fun u => { u with content := u.content ++ text } }, .ok ())
  close := fun m =>
    ({ finished := m.finished ++ (m.current.map fun u => { u with closed := true }).toList,
       current := none }, .ok ())

end MemoryStore

end Stubsmith
