import Stubsmith.Manifest.Fault
import Stubsmith.Text.Search

/-!
# Checking names in a source

A scope is a source with the path of the table that is being looked at. `checkName` and
`checkQualifiedName` accept plain identifiers, the latter several of them joined by dots; the fault
they report marks the place of the offending piece. The place is found by looking for the whole name
between quotes, so a name that is not written plainly between quotes gets no mark.
-/

namespace Stubsmith

open Kotlin

/-- The leftmost place of a value between double quotes, or else between single quotes. The empty
value has no place. -/
def Source.findValue? (source : Source) (value : String) : Option Span :=
  if value.isEmpty then none
  else
    let between := fun quote : String =>
      (Text.find? (quote ++ value ++ quote) source.text).map fun offset =>
        ({ offset := offset + 1, length := value.utf8ByteSize } : Span)
    (between "\"").or (between "'")

/-- A source, and the path of a table in it. -/
structure Scope where
  source : Source
  path : List String := []
  deriving DecidableEq, Repr

namespace Scope

/-- The scope of a table below. -/
def enter (s : Scope) (segment : String) : Scope :=
  { s with path := s.path ++ [segment] }

/-- The path with dots. -/
def pathText (s : Scope) : String :=
  ".".intercalate s.path

/-- What kind of name it is, and in which table. -/
def describe (s : Scope) (kind : String) : String :=
  if s.path.isEmpty then kind else kind ++ " in '" ++ s.pathText ++ "'"

/-- Accepts a plain identifier that stands at a span. -/
def checkPiece (s : Scope) (name kind : String) (span : Option Span) : Except ManifestFault Unit :=
  match identifierFault? name with
  | none => .ok ()
  | some .hardKeyword => .error (.reservedKeyword s.source span name (s.describe kind))
  | some fault => .error (.invalidIdentifier s.source span name (s.describe kind) fault.reason)

/-- Accepts a plain identifier. -/
def checkName (s : Scope) (name kind : String) : Except ManifestFault Unit :=
  s.checkPiece name kind (s.source.findValue? name)

/-- Accepts pieces that are plain identifiers; the first stands `offset` bytes into the span of the
whole name, and a dot of one byte follows each. -/
def checkPieces (s : Scope) (kind : String) (whole : Option Span) :
    Nat → List String → Except ManifestFault Unit
  | _, [] => .ok ()
  | offset, piece :: rest => do
    let span := whole.map fun w => { offset := w.offset + offset, length := piece.utf8ByteSize }
    s.checkPiece piece kind span
    s.checkPieces kind whole (offset + piece.utf8ByteSize + 1) rest

/-- Accepts plain identifiers joined by dots. -/
def checkQualifiedName (s : Scope) (name kind : String) : Except ManifestFault Unit :=
  s.checkPieces (kind ++ " segment") (s.source.findValue? name) 0 (Text.split '.' name)

end Scope

end Stubsmith
