import Stubsmith.Sink.Basic

/-!
# Faults that end a pass

A fault is told as a chain of messages, from what was attempted down to its cause; at the end there
may be a fault of the disk.
-/

namespace Stubsmith

/-- One link of a chain. -/
inductive ChainLink where
  | message (text : String)
  | disk (fault : DiskFault)
  deriving DecidableEq, Repr

/-- The chain of a fault of writing. -/
def WriteFault.chain : WriteFault → List ChainLink
  | directory parent fault =>
    [.message ("failed to create directory '" ++ parent.text ++ "'"), .disk fault]
  | file path fault => [.message ("failed to write '" ++ path.text ++ "'"), .disk fault]

/-- The chain of a fault of a sink. -/
def SinkFault.chain : SinkFault → List ChainLink
  | refused operation => [.message ("cannot " ++ operation.label)]
  | write fault => fault.chain
  | alreadyClosed => [.message "output unit is already closed"]

/-- Why a pass ended without result. -/
inductive PassFault where
  | opening (package fileName : String) (fault : SinkFault)
  | appending (fault : SinkFault)
  | closing (package fileName : String) (fault : SinkFault)
  deriving DecidableEq, Repr

/-- The chain of a fault of a pass. -/
def PassFault.chain : PassFault → List ChainLink
  | opening package fileName fault =>
    .message ("failed to open " ++ package ++ "." ++ fileName) :: fault.chain
  | appending fault => fault.chain
  | closing package fileName fault =>
    .message ("failed to close " ++ package ++ "." ++ fileName) :: fault.chain

/-- Why a command ended without report. -/
inductive CommandFault where
  | checking (fault : PassFault)
  | generating (fault : PassFault)
  deriving DecidableEq, Repr

/-- The chain of a fault of a command. -/
def CommandFault.chain : CommandFault → List ChainLink
  | checking fault => .message "Validation failed" :: fault.chain
  | generating fault => .message "Failed to generate code" :: fault.chain

end Stubsmith
