import Stubsmith.Sink.Basic

/-!
# A sink that fails on purpose

It refuses one chosen operation every time, and counts how often each operation was tried.
-/

namespace Stubsmith

/-- The chosen operation and the counts. -/
structure FailingStore where
  refuses : SinkOperation
  opened : Nat := 0
  appended : Nat := 0
  closed : Nat := 0
  deriving DecidableEq, Repr

namespace FailingStore

/-- The outcome of an operation. -/
def outcome (s : FailingStore) (operation : SinkOperation) : Except SinkFault Unit :=
  if s.refuses = operation then .error (.refused operation) else .ok ()

/-- The operations; a refused one is counted too. -/
def sink : Sink FailingStore where
  openUnit := fun s _ _ => ({ s with opened := s.opened + 1 }, s.outcome .opening)
  append := fun s _ => ({ s with appended := s.appended + 1 }, s.outcome .appending)
  close := fun s => ({ s with closed := s.closed + 1 }, s.outcome .closing)

end FailingStore

end Stubsmith
