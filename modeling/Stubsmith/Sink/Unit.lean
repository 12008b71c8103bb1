import Stubsmith.Sink.Basic

/-!
# Output units

A unit is the use of a sink for one package and file name. It has a stream from when it is opened
until it is closed. Closing takes the stream away. When a unit is dropped at the end of its use, a
stream that it still has is closed, and a fault of closing is forgotten; where the stream was taken
nothing is left to do. So a stream is closed once, however the use of the unit ends.
-/

namespace Stubsmith

/-- A unit, with the state of the sink that it was opened in. -/
structure OutputUnit (σ : Type) where
  store : σ
  /-- Whether there is a stream that can be appended to and has to be closed. -/
  hasStream : Bool

namespace OutputUnit

variable {σ : Type}

/-- Opens a unit. Where the sink refuses, there is no stream. -/
def openIn (S : Sink σ) (s : σ) (package fileName : String) :
    OutputUnit σ × Except SinkFault Unit :=
  match S.openUnit s package fileName with
  | (store, .error fault) => ({ store, hasStream := false }, .error fault)
  | (store, .ok _) => ({ store, hasStream := true }, .ok ())

/-- Appends to the stream, if there is one. -/
def append (S : Sink σ) (unit : OutputUnit σ) (text : String) :
    OutputUnit σ × Except SinkFault Unit :=
  if unit.hasStream then
    let (store, outcome) := S.append unit.store text
    ({ unit with store }, outcome)
  else (unit, .error .alreadyClosed)

/-- Takes the stream, if there is one, and closes it. -/
def close (S : Sink σ) (unit : OutputUnit σ) : OutputUnit σ × Except SinkFault Unit :=
  if unit.hasStream then
    let (store, outcome) := S.close unit.store
    ({ store, hasStream := false }, outcome)
  else (unit, .ok ())

/-- Ends the use of the unit: a stream that was not taken is closed. -/
def drop (S : Sink σ) (unit : OutputUnit σ) : σ :=
  if unit.hasStream then S.drop unit.store else unit.store

end OutputUnit

/-- The operations of a sink by way of a unit, which is the state. -/
def Sink.scoped {σ : Type} (S : Sink σ) : Sink (OutputUnit σ) where
  openUnit := fun unit package fileName => OutputUnit.openIn S unit.store package fileName
  append := fun unit text => unit.append S text
  close := fun unit => unit.close S

end Stubsmith
