import Stubsmith.Data.Fault
import Stubsmith.Disk.Basic
import Stubsmith.Kotlin.Name

/-!
# Faults of a manifest

Why a manifest was not accepted: it could not be read, it is not the data that was expected, or one
of its names is not usable. A fault of a name carries the span of the name, if there is one. The
place at which a malformed text cannot be read any further is not kept, since the readers here do
not return it: such a fault has no span and no label, though a message could mark that place.
-/

namespace Stubsmith

/-- A text with the name under which messages mention it. -/
structure Source where
  name : String
  text : String
  deriving DecidableEq, Repr

/-- A stretch of a text, in bytes of its UTF-8 form. -/
structure Span where
  offset : Nat
  length : Nat
  deriving DecidableEq, Repr

/-- A marked stretch of a text with what is said about it. -/
structure Label where
  text : String
  span : Span
  deriving DecidableEq, Repr

/-- Why a manifest was not accepted. -/
inductive ManifestFault where
  | unreadable (path : Path) (fault : DiskFault)
  /-- The text is no TOML, or holds a number that signed words and floats do not hold (`none`), or
  its data do not describe a manifest. Where in the text that is found is left out. -/
  | malformed (source : Source) (detail : Option DataFault)
  | invalid (source : Source) (span : Option Span) (message : String)
  | reservedKeyword (source : Source) (span : Option Span) (name context : String)
  | invalidIdentifier (source : Source) (span : Option Span) (name context reason : String)

namespace ManifestFault

/-- The fault in words. -/
def message : ManifestFault → String
  | unreadable path _ => "failed to read '" ++ path.text ++ "'"
  | malformed _ _ => "failed to parse fungen.toml"
  | invalid _ _ message => message
  | reservedKeyword _ _ name _ => "'" ++ name ++ "' is a Kotlin keyword"
  | invalidIdentifier _ _ name context _ => "invalid " ++ context ++ " '" ++ name ++ "'"

/-- The code under which the fault is documented. -/
def code? : ManifestFault → Option String
  | unreadable _ _ => none
  | malformed _ _ => some "fungen::parse_error"
  | invalid _ _ _ => some "fungen::validation_error"
  | reservedKeyword _ _ _ _ => some "fungen::reserved_keyword"
  | invalidIdentifier _ _ _ _ _ => some "fungen::invalid_identifier"

/-- Advice on mending the fault. -/
def help? : ManifestFault → Option String
  | unreadable _ _ => some "pass the manifest location with --config"
  | malformed _ _ => none
  | invalid _ _ _ => none
  | reservedKeyword _ _ _ context =>
    some ("the generated file would not compile; choose another " ++ context)
  | invalidIdentifier _ _ _ _ reason =>
    some (reason ++ ". Use only letters, numbers, and underscores, starting with a letter or "
      ++ "underscore.")

/-- The text that the fault is found in. -/
def source? : ManifestFault → Option Source
  | unreadable _ _ => none
  | malformed source _ => some source
  | invalid source _ _ => some source
  | reservedKeyword source _ _ _ => some source
  | invalidIdentifier source _ _ _ _ => some source

/-- The stretch of the source that is marked. None is known of a malformed text. -/
def span? : ManifestFault → Option Span
  | unreadable _ _ => none
  | malformed _ _ => none
  | invalid _ span _ => span
  | reservedKeyword _ span _ _ => span
  | invalidIdentifier _ span _ _ _ => span

/-- What is said about the marked stretch. -/
def labelText : ManifestFault → String
  | invalid _ _ message => message
  | reservedKeyword _ _ _ _ => "keyword used here"
  | invalidIdentifier _ _ _ _ _ => "invalid identifier"
  | _ => "parse error here"

/-- The marks in the source; there is one if the fault has a span. -/
def labels (fault : ManifestFault) : List Label :=
  fault.span?.toList.map fun span => ⟨fault.labelText, span⟩

end ManifestFault

end Stubsmith
