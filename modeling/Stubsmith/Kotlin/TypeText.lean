import Stubsmith.Draft
import Stubsmith.Kotlin.RenderFault

/-!
# Types as source text

A type is first laid out as a sequence of pieces: text, and gaps where a part was not resolved.
There are two ways to write the pieces into a draft. `writeUntilGap` stops at the first gap and
keeps what stands before it; `writeAroundGaps` leaves the gaps out and writes all the rest. So both
write the same text up to the first gap, and the same text altogether if there is none.
-/

namespace Stubsmith

open Kotlin

namespace Kotlin

/-- A piece of a type: text, or a part that was not resolved. -/
inductive Piece where
  | text (s : String)
  | gap (position : GapPosition)
  deriving DecidableEq, Repr

end Kotlin

/-- The keyword of a variance with the blank after it; nothing for an invariant argument. -/
def Variance.leadPieces : Variance → List Piece
  | .invariant => []
  | v => [.text v.label, .text " "]

mutual

/-- The pieces of a type that stands at a position. A type without a name is one gap, whatever its
arguments. -/
def TypeRef.pieces (position : GapPosition) : TypeRef → List Piece
  | ⟨none, _, _⟩ => [.gap position]
  | ⟨some name, nullable, arguments⟩ =>
    .text name
      :: ((if arguments.isEmpty then []
          else .text "<" :: (TypeRef.argumentsPieces true arguments ++ [.text ">"]))
        ++ (if nullable then [.text "?"] else []))

/-- The pieces of generic arguments, separated by commas. -/
def TypeRef.argumentsPieces (isFirst : Bool) : List (Projection TypeRef) → List Piece
  | [] => []
  | a :: rest =>
    (if isFirst then [] else [.text ", "])
      ++ (TypeRef.argumentPieces a ++ TypeRef.argumentsPieces false rest)

/-- The pieces of one generic argument. A star stands for itself, whatever type it carries. -/
def TypeRef.argumentPieces : Projection TypeRef → List Piece
  | ⟨.star, _⟩ => [.text "*"]
  | ⟨variance, type⟩ => variance.leadPieces ++ TypeRef.argumentTypePieces type

/-- The pieces of the type of a generic argument; a missing type is a gap. -/
def TypeRef.argumentTypePieces : Option TypeRef → List Piece
  | none => [.gap .argument]
  | some t => TypeRef.pieces .argument t

end

namespace Draft

/-- Writes pieces up to the first gap, and returns its position if there is one. -/
def writeUntilGap (d : Draft) : List Piece → Draft × Option GapPosition
  | [] => (d, none)
  | .text s :: rest => (d.raw s).writeUntilGap rest
  | .gap position :: _ => (d, some position)

/-- Writes all pieces but the gaps, and returns their positions. -/
def writeAroundGaps (d : Draft) : List Piece → Draft × List GapPosition
  | [] => (d, [])
  | .text s :: rest => (d.raw s).writeAroundGaps rest
  | .gap position :: rest =>
    let (d, positions) := d.writeAroundGaps rest
    (d, position :: positions)

/-- Writes the type of the property named by `symbol`, and stops with a fault at its first gap. -/
def writeType (d : Draft) (t : TypeRef) (symbol : String) : Draft × Option RenderFault :=
  let (d, position) := d.writeUntilGap (t.pieces .property)
  (d, position.map (.unresolvable symbol))

/-- Writes the type of the property named by `symbol` around its gaps, and returns a fault for each.
-/
def writeTypeAround (d : Draft) (t : TypeRef) (symbol : String) : Draft × List RenderFault :=
  let (d, positions) := d.writeAroundGaps (t.pieces .property)
  (d, positions.map (.unresolvable symbol))

end Draft

/-- The text of a type that has no gap. -/
def TypeRef.toText (t : TypeRef) : Except RenderFault String :=
  match ({} : Draft).writeType t "" with
  | (_, some fault) => .error fault
  | (d, none) => .ok d.text

end Stubsmith
