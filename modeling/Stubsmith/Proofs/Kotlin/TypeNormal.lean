import Stubsmith.Proofs.Kotlin.TypeText

/-!
# Normal forms of types

`TypeRef.normal` drops what is never written of a type: all that belongs to a type without a name,
and the type at a star. A generic argument without a type has an unresolved one there. A type and
its normal form have the same pieces, so they are written alike and have the same gaps.
-/

namespace Stubsmith

open Kotlin

mutual

/-- The type without what is not written of it. -/
def TypeRef.normal : TypeRef → TypeRef
  | ⟨none, _, _⟩ => .unresolved
  | ⟨some name, nullable, arguments⟩ => ⟨some name, nullable, TypeRef.normalArguments arguments⟩

/-- The generic arguments without what is not written of them. -/
def TypeRef.normalArguments : List (Projection TypeRef) → List (Projection TypeRef)
  | [] => []
  | a :: rest => TypeRef.normalArgument a :: TypeRef.normalArguments rest

/-- One generic argument without what is not written of it. -/
def TypeRef.normalArgument : Projection TypeRef → Projection TypeRef
  | ⟨.star, _⟩ => TypeArgument.star
  | ⟨.invariant, type⟩ => TypeArgument.invariant (TypeRef.normalType type)
  | ⟨.covariant, type⟩ => TypeArgument.covariant (TypeRef.normalType type)
  | ⟨.contravariant, type⟩ => TypeArgument.contravariant (TypeRef.normalType type)

/-- The type of a generic argument; one that is missing counts as unresolved. -/
def TypeRef.normalType : Option TypeRef → TypeRef
  | none => .unresolved
  | some t => t.normal

end

mutual

/-- A type is laid out like its normal form. -/
theorem TypeRef.pieces_normal (position : GapPosition) :
    (t : TypeRef) → t.normal.pieces position = t.pieces position
  | ⟨none, _, _⟩ => rfl
  | ⟨some _, _, []⟩ => rfl
  | ⟨some name, nullable, a :: rest⟩ => by
      have harguments := TypeRef.argumentsPieces_normalArguments true (a :: rest)
      rw [TypeRef.normalArguments] at harguments
      simp only [TypeRef.normal, TypeRef.normalArguments, TypeRef.pieces, List.isEmpty_cons,
        harguments]

/-- Generic arguments are laid out like their normal forms. -/
theorem TypeRef.argumentsPieces_normalArguments (isFirst : Bool) :
    (arguments : List (Projection TypeRef)) →
    TypeRef.argumentsPieces isFirst (TypeRef.normalArguments arguments)
      = TypeRef.argumentsPieces isFirst arguments
  | [] => rfl
  | a :: rest => by
      rw [TypeRef.normalArguments, TypeRef.argumentsPieces, TypeRef.argumentsPieces,
        TypeRef.argumentPieces_normalArgument a,
        TypeRef.argumentsPieces_normalArguments false rest]

/-- A star is laid out alone, and any other argument like its type. -/
theorem TypeRef.argumentPieces_normalArgument :
    (a : Projection TypeRef) →
    TypeRef.argumentPieces (TypeRef.normalArgument a) = TypeRef.argumentPieces a
  | ⟨.star, _⟩ => rfl
  | ⟨.invariant, type⟩ => TypeRef.pieces_normalType type
  | ⟨.covariant, type⟩ => congrArg (Variance.covariant.leadPieces ++ ·)
      (TypeRef.pieces_normalType type)
  | ⟨.contravariant, type⟩ => congrArg (Variance.contravariant.leadPieces ++ ·)
      (TypeRef.pieces_normalType type)

/-- An argument without a type is laid out like one whose type was not resolved. -/
theorem TypeRef.pieces_normalType :
    (type : Option TypeRef) →
    (TypeRef.normalType type).pieces .argument = TypeRef.argumentTypePieces type
  | none => rfl
  | some t => TypeRef.pieces_normal .argument t

end

namespace Draft

/-- Types of the same normal form are written alike around their gaps. -/
theorem writeTypeAround_congr {t u : TypeRef} (h : t.normal = u.normal) (d : Draft)
    (symbol : String) : d.writeTypeAround t symbol = d.writeTypeAround u symbol := by
  rw [writeTypeAround, writeTypeAround, ← TypeRef.pieces_normal, h, TypeRef.pieces_normal]

/-- Types of the same normal form are written alike up to their first gap. -/
theorem writeType_congr {t u : TypeRef} (h : t.normal = u.normal) (d : Draft)
    (symbol : String) : d.writeType t symbol = d.writeType u symbol := by
  rw [writeType, writeType, ← TypeRef.pieces_normal, h, TypeRef.pieces_normal]

end Draft

end Stubsmith
