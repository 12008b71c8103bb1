import Stubsmith.Disk.Write

/-!
# Sinks

A sink takes generated text. It opens one unit at a time, for a package and file name, takes any
number of texts for it and closes it. A sink is given by what its three operations do to a state, so
that the state may be a list in memory, a disk or a count of calls. A unit may also be dropped: then
it is closed and a fault of closing is forgotten.
-/

namespace Stubsmith

/-- The operations of a sink. -/
inductive SinkOperation where
  | opening
  | appending
  | closing
  deriving DecidableEq, Repr

/-- The verb for the operation, with what it applies to. -/
def SinkOperation.label : SinkOperation → String
  | opening => "open output"
  | appending => "append to output"
  | closing => "close output"

/-- Why an operation of a sink failed. -/
inductive SinkFault where
  | refused (operation : SinkOperation)
  | write (fault : WriteFault)
  /-- There is no stream to append to. -/
  | alreadyClosed
  deriving DecidableEq, Repr

/-- The operations of a sink on its state. -/
structure Sink (σ : Type) where
  openUnit : σ → (package fileName : String) → σ × Except SinkFault Unit
  append : σ → String → σ × Except SinkFault Unit
  close : σ → σ × Except SinkFault Unit

namespace Sink

variable {σ : Type}

/-- Closes the open unit and forgets a fault. -/
def drop (S : Sink σ) (s : σ) : σ :=
  (S.close s).1

/-- Appends texts one after another, whether or not one fails, and returns what came of each. -/
def appendEach (S : Sink σ) (s : σ) : List String → σ × List (Except SinkFault Unit)
  | [] => (s, [])
  | text :: rest =>
    let (s, outcome) := S.append s text
    let (s, outcomes) := S.appendEach s rest
    (s, outcome :: outcomes)

end Sink

/-- One operation on a sink as it was carried out. -/
inductive SinkEvent where
  | opened (package fileName : String) (succeeded : Bool)
  | appended (text : String) (succeeded : Bool)
  | closed (succeeded : Bool)
  deriving DecidableEq, Repr

/-- Whether the operation succeeded. -/
def SinkEvent.succeeded : SinkEvent → Bool
  | opened _ _ b => b
  | appended _ b => b
  | closed b => b

/-- Whether an outcome is no fault. -/
def SinkFault.isOk : Except SinkFault Unit → Bool
  | .ok _ => true
  | .error _ => false

/-- A sink that behaves like another one and keeps the list of its operations. -/
def Sink.traced {σ : Type} (S : Sink σ) : Sink (σ × List SinkEvent) where
  openUnit := fun (s, trace) package fileName =>
    let (s, outcome) := S.openUnit s package fileName
    ((s, trace ++ [.opened package fileName (SinkFault.isOk outcome)]), outcome)
  append := fun (s, trace) text =>
    let (s, outcome) := S.append s text
    ((s, trace ++ [.appended text (SinkFault.isOk outcome)]), outcome)
  close := fun (s, trace) =>
    let (s, outcome) := S.close s
    ((s, trace ++ [.closed (SinkFault.isOk outcome)]), outcome)

end Stubsmith
