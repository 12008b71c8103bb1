import Stubsmith.Diagnostic
import Stubsmith.Model.Declaration

/-!
# Why a declaration cannot be written

A declaration may be of the wrong kind, its marker may not name a function, or one of its types may
have a part that was not resolved. None of this concerns the other declarations of a pass.
-/

namespace Stubsmith.Kotlin

/-- Where an unresolved type stands: it is the type of a property, or an argument at any depth. -/
inductive GapPosition where
  | property
  | argument
  deriving DecidableEq, Repr

/-- The position in words. -/
def GapPosition.label : GapPosition → String
  | property => "property type"
  | argument => "type argument"

/-- Why a declaration cannot be written. -/
inductive RenderFault where
  | wrongKind (declaration : String) (kind : DeclarationKind) (marker : String)
  | missingName (declaration marker argument : String)
  | nameNotText (declaration marker argument found : String)
  | unresolvable (symbol : String) (position : GapPosition)
  deriving DecidableEq, Repr

namespace RenderFault

/-- The fault in words. -/
def message : RenderFault → String
  | wrongKind _ _ marker => "only objects can be annotated with @" ++ marker
  | missingName _ marker argument =>
    "@" ++ marker ++ " is missing the '" ++ argument ++ "' argument"
  | nameNotText _ marker argument found =>
    "'" ++ argument ++ "' of @" ++ marker ++ " must be a string, found " ++ found
  | unresolvable _ position => "invalid " ++ position.label

/-- The declaration or property that the fault is about. -/
def symbol : RenderFault → String
  | wrongKind declaration _ _ => declaration
  | missingName declaration _ _ => declaration
  | nameNotText declaration _ _ _ => declaration
  | unresolvable symbol _ => symbol

/-- The phase in which the fault is noticed. -/
def phase : RenderFault → String
  | unresolvable _ _ => "render"
  | _ => "validate"

/-- The fault as a diagnostic. -/
def toDiagnostic (fault : RenderFault) : Diagnostic :=
  { severity := .error, phase := fault.phase, message := fault.message,
    location := some fault.symbol }

end RenderFault

end Stubsmith.Kotlin
