import Stubsmith.Text.Alphabetic
import Stubsmith.Text.Numeric
import Stubsmith.Text.Split

/-!
# Kotlin names

Which texts are plain identifiers (`identifierFault?`), which are hard keywords (`isHardKeyword`),
and the simple name of a qualified one (`simpleName`). A plain identifier starts with a letter or an
underscore, goes on with letters, numbers and underscores, and is not a hard keyword.
-/

namespace Stubsmith.Kotlin

open Stubsmith.Text

/-- The words that Kotlin never takes as an identifier. -/
def hardKeywords : List String :=
  ["as", "break", "class", "continue", "do", "else", "false", "for", "fun", "if", "in", "interface",
    "is", "null", "object", "package", "return", "super", "this", "throw", "true", "try",
    "typealias", "typeof", "val", "var", "when", "while"]

/-- Whether the name is a hard keyword. -/
def isHardKeyword (name : String) : Bool :=
  hardKeywords.contains name

/-- Whether an identifier may begin with the character. -/
def isIdentifierStart (c : Char) : Bool :=
  isAlphabetic c || c == '_'

/-- Whether an identifier may go on with the character. -/
def isIdentifierPart (c : Char) : Bool :=
  isAlphabetic c || isNumeric c || c == '_'

/-- Why a name is not a plain identifier. -/
inductive NameFault where
  | hardKeyword
  | empty
  | badStart
  | badPart
  deriving DecidableEq, Repr

/-- The fault in words. -/
def NameFault.reason : NameFault → String
  | .hardKeyword => "name is a Kotlin hard keyword"
  | .empty => "name cannot be empty"
  | .badStart => "name must start with a letter or underscore"
  | .badPart => "name must contain only letters, numbers, and underscores"

/-- The first fault of a text that is not a keyword. -/
def spellingFault? : List Char → Option NameFault
  | [] => some .empty
  | c :: rest =>
    if !isIdentifierStart c then some .badStart
    else if rest.any (!isIdentifierPart ·) then some .badPart
    else none

/-- Why the name is not a plain identifier; `none` if it is one. -/
def identifierFault? (name : String) : Option NameFault :=
  if isHardKeyword name then some .hardKeyword else spellingFault? name.toList

/-- Whether the name is a plain identifier. -/
def IsIdentifier (name : String) : Prop :=
  identifierFault? name = none

instance (name : String) : Decidable (IsIdentifier name) :=
  inferInstanceAs (Decidable (identifierFault? name = none))

/-- The last piece of a name whose pieces are joined by dots. -/
def simpleName (qualified : String) : String :=
  afterLast '.' qualified

end Stubsmith.Kotlin
