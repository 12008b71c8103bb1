/-!
# References to types

A type reference is a name, unless resolution failed, with a mark for nullability and a list of
generic arguments. An argument is a projection of a type: a variance with the type it applies to. A
star projection means any type and ignores the type it may carry; under any other variance a missing
type means that the argument could not be resolved.
-/

namespace Stubsmith

/-- The variance at the place where a generic argument is given. -/
inductive Variance where
  | invariant
  | covariant
  | contravariant
  | star
  deriving DecidableEq, Repr

/-- The keyword written before the argument; empty if there is none. -/
def Variance.label : Variance → String
  | .invariant => ""
  | .covariant => "out"
  | .contravariant => "in"
  | .star => "*"

/-- A variance with what it applies to. -/
structure Projection (α : Type) where
  variance : Variance := .invariant
  type : Option α := none
  deriving Repr

/-- A reference to a type, with its generic arguments in order. The name is missing if the reference
could not be resolved. -/
structure TypeRef where
  name : Option String := none
  nullable : Bool := false
  arguments : List (Projection TypeRef) := []
  deriving Repr

/-- One generic argument of a type. -/
abbrev TypeArgument := Projection TypeRef

namespace TypeRef

/-- A plain reference to the type of that name. -/
def named (name : String) : TypeRef :=
  { name := some name }

/-- A reference that could not be resolved. -/
def unresolved : TypeRef :=
  {}

/-- The same reference, nullable. -/
def asNullable (t : TypeRef) : TypeRef :=
  { t with nullable := true }

/-- The same reference with one more generic argument. -/
def withArgument (t : TypeRef) (argument : TypeArgument) : TypeRef :=
  { t with arguments := t.arguments ++ [argument] }

/-- Whether the reference was resolved. -/
def isResolved (t : TypeRef) : Bool :=
  t.name.isSome

/-- Whether there are generic arguments. -/
def isGeneric (t : TypeRef) : Bool :=
  !t.arguments.isEmpty

end TypeRef

namespace TypeArgument

/-- Any type. -/
def star : TypeArgument :=
  { variance := .star }

/-- Exactly the type. -/
def invariant (t : TypeRef) : TypeArgument :=
  { variance := .invariant, type := some t }

/-- The type or a subtype. -/
def covariant (t : TypeRef) : TypeArgument :=
  { variance := .covariant, type := some t }

/-- The type or a supertype. -/
def contravariant (t : TypeRef) : TypeArgument :=
  { variance := .contravariant, type := some t }

end TypeArgument

mutual

/-- Whether two references are equal. -/
def TypeRef.same : TypeRef → TypeRef → Bool
  | ⟨name, nullable, arguments⟩, other =>
    name == other.name && nullable == other.nullable
      && TypeRef.sameArguments arguments other.arguments

/-- Whether two lists of arguments are equal. -/
def TypeRef.sameArguments : List (Projection TypeRef) → List (Projection TypeRef) → Bool
  | [], others => others.isEmpty
  | a :: rest, others =>
    match others with
    | [] => false
    | b :: others => TypeRef.sameArgument a b && TypeRef.sameArguments rest others

/-- Whether two arguments are equal. -/
def TypeRef.sameArgument : Projection TypeRef → Projection TypeRef → Bool
  | ⟨variance, type⟩, other => variance == other.variance && TypeRef.sameType type other.type

/-- Whether two argument types are equal. -/
def TypeRef.sameType : Option TypeRef → Option TypeRef → Bool
  | none, other => other.isNone
  | some a, other =>
    match other with
    | none => false
    | some b => TypeRef.same a b

end

instance : BEq TypeRef := ⟨TypeRef.same⟩

instance : BEq TypeArgument := ⟨TypeRef.sameArgument⟩

end Stubsmith
