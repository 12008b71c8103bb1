import Stubsmith.Decimal.Notation
import Stubsmith.Kotlin.Name
import Stubsmith.OrderedMap

/-!
# Annotations

An annotation has a qualified name and named arguments, kept in the order in which they were given.
-/

namespace Stubsmith

/-- A constant given to an annotation. Integers are signed words of 64 bits. -/
inductive Constant where
  | boolean (value : Bool)
  | integer (value : Int64)
  | float (value : Float)
  | text (value : String)

namespace Constant

/-- The text of a text argument. -/
def text? : Constant → Option String
  | text s => some s
  | _ => none

/-- The word for the kind of constant, as error messages use it. -/
def kindName : Constant → String
  | boolean _ => "boolean"
  | integer _ => "integer"
  | float _ => "float"
  | text _ => "string"

/-- The constant as it is shown. A text stands between quotes and is not escaped. -/
def display : Constant → String
  | boolean b => if b then "true" else "false"
  | integer i => toString i.toInt
  | float x => Decimal.FloatStyle.plain.format x
  | text s => "\"" ++ s ++ "\""

/-- Constants of different kinds are never alike, and numbers compare as numbers, so NaN is not like
itself. -/
def alike : Constant → Constant → Bool
  | boolean a, boolean b => a == b
  | integer a, integer b => a == b
  | float a, float b => a == b
  | text a, text b => a == b
  | _, _ => false

instance : BEq Constant := ⟨alike⟩

end Constant

/-- An annotation on a declaration. -/
structure Annotation where
  name : String
  arguments : OrderedMap Constant := .empty

namespace Annotation

/-- The annotation of that name without arguments. -/
def bare (name : String) : Annotation :=
  { name }

/-- The annotation with the argument set. -/
def withArgument (a : Annotation) (key : String) (value : Constant) : Annotation :=
  { a with arguments := a.arguments.insert key value }

/-- The last piece of the qualified name. -/
def simpleName (a : Annotation) : String :=
  Kotlin.simpleName a.name

/-- The argument of that name. -/
def get? (a : Annotation) (key : String) : Option Constant :=
  a.arguments.get? key

/-- Same name and the same arguments, in whatever order. -/
def alike (a b : Annotation) : Bool :=
  a.name == b.name && a.arguments.alike b.arguments

instance : BEq Annotation := ⟨alike⟩

end Annotation

end Stubsmith
