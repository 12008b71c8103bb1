import Stubsmith.Kotlin.Name

/-!
# Configuration of a pass

Which annotation marks a declaration, which of its arguments names the function, where the functions
go and what happens to a declaration with a type that cannot be written.
-/

namespace Stubsmith

/-- What happens to a declaration with an unresolvable property type. -/
inductive GapPolicy where
  /-- Nothing is written for the declaration. -/
  | discard
  /-- The unresolvable parts are left out and the rest is written. -/
  | keepPartial
  deriving DecidableEq, Repr

namespace GapPolicy

/-- The word for the policy. -/
def label : GapPolicy → String
  | discard => "discard"
  | keepPartial => "keep-partial"

/-- Lower case, as far as the words for the policies need it: the Latin letters, and the Kelvin
sign, which is the only other character whose lower case is a single ASCII letter. -/
def lowerCase (c : Char) : Char :=
  if c = '\u212a' then 'k' else c.toLower

/-- Reads a word for a policy, in any case of letters. -/
def ofText? (s : String) : Option GapPolicy :=
  let word := String.ofList (s.toList.map lowerCase)
  if word = "discard" then some discard
  else if word = "keep-partial" ∨ word = "keep_partial" ∨ word = "partial" then some keepPartial
  else none

/-- The message about a word that `ofText?` does not know. -/
def unknownMessage (s : String) : String :=
  "unknown policy '" ++ s ++ "', expected 'discard' or 'keep-partial'"

end GapPolicy

/-- The options of a pass. -/
structure Configuration where
  /-- Qualified name of the annotation that marks a declaration. -/
  marker : String := "org.example.Function"
  /-- The argument of the marker that names the function. -/
  nameArgument : String := "erstesArgument"
  /-- Package of the generated file. -/
  package : String := "org.example"
  /-- Name of the generated file, without extension. -/
  fileName : String := "GeneratedFunctions"
  onGap : GapPolicy := .discard
  deriving DecidableEq, Repr

/-- The last piece of the marker's qualified name. -/
def Configuration.markerSimpleName (c : Configuration) : String :=
  Kotlin.simpleName c.marker

end Stubsmith
