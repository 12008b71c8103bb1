import Stubsmith.Kotlin.TypeText
import Stubsmith.Proofs.Draft

/-!
# The text of a type and its gaps

`TypeRef.spelling` is the text of a type by recursion on the type alone, with nothing where a part
was not resolved, and `TypeRef.gaps` lists the positions of those parts in the order of the text.
Both ways of writing a type into a draft are described by the two: `writeTypeAround` appends the
spelling and returns a fault for every gap, and `writeType` does so too if there is no gap. Where
`writeType` ends if there is one takes more to say, and has a module of its own.
-/

namespace Stubsmith

open Kotlin

/-! ## Spelling and gaps by recursion on the type -/

mutual

/-- The type as it is spelled in the source. What was not resolved is left out: a type without a
name with all that belongs to it, and the type of an argument that has none. -/
def TypeRef.spelling : TypeRef → String
  | ⟨none, _, _⟩ => ""
  | ⟨some name, nullable, arguments⟩ =>
    name ++ (if arguments.isEmpty then ""
        else "<" ++ ", ".intercalate (TypeRef.argumentSpellings arguments) ++ ">")
      ++ (if nullable then "?" else "")

/-- The generic arguments as they are spelled, one by one. -/
def TypeRef.argumentSpellings : List (Projection TypeRef) → List String
  | [] => []
  | a :: rest => TypeRef.argumentSpelling a :: TypeRef.argumentSpellings rest

/-- One generic argument as it is spelled. -/
def TypeRef.argumentSpelling : Projection TypeRef → String
  | ⟨.star, _⟩ => "*"
  | ⟨.invariant, type⟩ => TypeRef.argumentTypeSpelling type
  | ⟨.covariant, type⟩ => "out " ++ TypeRef.argumentTypeSpelling type
  | ⟨.contravariant, type⟩ => "in " ++ TypeRef.argumentTypeSpelling type

/-- The type of a generic argument as it is spelled. -/
def TypeRef.argumentTypeSpelling : Option TypeRef → String
  | none => ""
  | some t => TypeRef.spelling t

end

mutual

/-- The positions of the parts of a type that were not resolved, in the order of the text. A type
without a name is one such part and hides what is below it, a generic argument without a type is
another, and a star has none. -/
def TypeRef.gaps (position : GapPosition) : TypeRef → List GapPosition
  | ⟨none, _, _⟩ => [position]
  | ⟨some _, _, arguments⟩ => TypeRef.argumentsGaps arguments

/-- The gaps of generic arguments. -/
def TypeRef.argumentsGaps : List (Projection TypeRef) → List GapPosition
  | [] => []
  | a :: rest => TypeRef.argumentGaps a ++ TypeRef.argumentsGaps rest

/-- The gaps of one generic argument. -/
def TypeRef.argumentGaps : Projection TypeRef → List GapPosition
  | ⟨.star, _⟩ => []
  | ⟨.invariant, type⟩ => TypeRef.argumentTypeGaps type
  | ⟨.covariant, type⟩ => TypeRef.argumentTypeGaps type
  | ⟨.contravariant, type⟩ => TypeRef.argumentTypeGaps type

/-- The gaps of the type of a generic argument. -/
def TypeRef.argumentTypeGaps : Option TypeRef → List GapPosition
  | none => [.argument]
  | some t => TypeRef.gaps .argument t

end

/-! ## The pieces of a type -/

namespace Kotlin.Piece

/-- The text of pieces, without the gaps. -/
def joinedText : List Piece → String
  | [] => ""
  | .text s :: rest => s ++ joinedText rest
  | .gap _ :: rest => joinedText rest

/-- The gaps among pieces, in order. -/
def positions : List Piece → List GapPosition
  | [] => []
  | .text _ :: rest => positions rest
  | .gap position :: rest => position :: positions rest

@[simp] theorem joinedText_nil : joinedText [] = "" := rfl

@[simp] theorem joinedText_cons_text (s : String) (rest : List Piece) :
    joinedText (.text s :: rest) = s ++ joinedText rest := rfl

@[simp] theorem joinedText_cons_gap (position : GapPosition) (rest : List Piece) :
    joinedText (.gap position :: rest) = joinedText rest := rfl

@[simp] theorem positions_nil : positions [] = [] := rfl

@[simp] theorem positions_cons_text (s : String) (rest : List Piece) :
    positions (.text s :: rest) = positions rest := rfl

@[simp] theorem positions_cons_gap (position : GapPosition) (rest : List Piece) :
    positions (.gap position :: rest) = position :: positions rest := rfl

@[simp] theorem joinedText_append (ps qs : List Piece) :
    joinedText (ps ++ qs) = joinedText ps ++ joinedText qs := by
  induction ps with
  | nil => simp
  | cons p rest ih => cases p <;> simp [ih, String.append_assoc]

@[simp] theorem positions_append (ps qs : List Piece) :
    positions (ps ++ qs) = positions ps ++ positions qs := by
  induction ps with
  | nil => rfl
  | cons p rest ih => cases p <;> simp [ih]

end Kotlin.Piece

open Kotlin.Piece

mutual

/-- The pieces of a type hold its spelling. -/
theorem TypeRef.joinedText_pieces (position : GapPosition) :
    (t : TypeRef) → joinedText (t.pieces position) = t.spelling
  | ⟨none, _, _⟩ => rfl
  | ⟨some name, nullable, []⟩ => by
      cases nullable <;> simp [TypeRef.pieces, TypeRef.spelling]
  | ⟨some name, nullable, a :: rest⟩ => by
      have harguments := TypeRef.joinedText_argumentsPieces (a :: rest)
      cases nullable <;>
        simp [TypeRef.pieces, TypeRef.spelling, harguments, String.append_assoc]

/-- The pieces of generic arguments hold their spellings with commas between them. -/
theorem TypeRef.joinedText_argumentsPieces :
    (arguments : List (Projection TypeRef)) →
    joinedText (TypeRef.argumentsPieces true arguments)
      = ", ".intercalate (TypeRef.argumentSpellings arguments)
  | [] => by simp [TypeRef.argumentsPieces, TypeRef.argumentSpellings]
  | [a] => by
      have ha := TypeRef.joinedText_argumentPieces a
      simp [TypeRef.argumentsPieces, TypeRef.argumentSpellings, ha]
  | a :: b :: rest => by
      -- behind the first argument the pieces begin with the comma that `intercalate` puts there
      have ha := TypeRef.joinedText_argumentPieces a
      have hrest := TypeRef.joinedText_argumentsPieces (b :: rest)
      simp only [TypeRef.argumentsPieces, if_true, List.nil_append, joinedText_append] at hrest
      simp [TypeRef.argumentsPieces, TypeRef.argumentSpellings, ha, String.intercalate_cons_cons,
        String.append_assoc] at hrest ⊢
      rw [hrest]

/-- The pieces of one generic argument hold its spelling. -/
theorem TypeRef.joinedText_argumentPieces :
    (a : Projection TypeRef) →
    joinedText (TypeRef.argumentPieces a) = TypeRef.argumentSpelling a
  | ⟨.star, _⟩ => rfl
  | ⟨.invariant, type⟩ => TypeRef.joinedText_argumentTypePieces type
  | ⟨.covariant, type⟩ => by
      have htype := TypeRef.joinedText_argumentTypePieces type
      simp [TypeRef.argumentPieces, TypeRef.argumentSpelling, Variance.leadPieces, Variance.label,
        htype, ← String.append_assoc]
  | ⟨.contravariant, type⟩ => by
      have htype := TypeRef.joinedText_argumentTypePieces type
      simp [TypeRef.argumentPieces, TypeRef.argumentSpelling, Variance.leadPieces, Variance.label,
        htype, ← String.append_assoc]

/-- The pieces of the type of a generic argument hold its spelling. -/
theorem TypeRef.joinedText_argumentTypePieces :
    (type : Option TypeRef) →
    joinedText (TypeRef.argumentTypePieces type) = TypeRef.argumentTypeSpelling type
  | none => rfl
  | some t => TypeRef.joinedText_pieces .argument t

end

mutual

/-- The gaps among the pieces of a type are its gaps. -/
theorem TypeRef.positions_pieces (position : GapPosition) :
    (t : TypeRef) → positions (t.pieces position) = t.gaps position
  | ⟨none, _, _⟩ => rfl
  | ⟨some name, nullable, []⟩ => by
      cases nullable <;> simp [TypeRef.pieces, TypeRef.gaps, TypeRef.argumentsGaps]
  | ⟨some name, nullable, a :: rest⟩ => by
      have harguments := TypeRef.positions_argumentsPieces true (a :: rest)
      cases nullable <;> simp [TypeRef.pieces, TypeRef.gaps, harguments]

/-- The gaps among the pieces of generic arguments are theirs, one argument after the other. -/
theorem TypeRef.positions_argumentsPieces (isFirst : Bool) :
    (arguments : List (Projection TypeRef)) →
    positions (TypeRef.argumentsPieces isFirst arguments) = TypeRef.argumentsGaps arguments
  | [] => rfl
  | a :: rest => by
      have ha := TypeRef.positions_argumentPieces a
      have hrest := TypeRef.positions_argumentsPieces false rest
      cases isFirst <;> simp [TypeRef.argumentsPieces, TypeRef.argumentsGaps, ha, hrest]

/-- The keyword of a variance is no gap. -/
theorem TypeRef.positions_argumentPieces :
    (a : Projection TypeRef) →
    positions (TypeRef.argumentPieces a) = TypeRef.argumentGaps a
  | ⟨.star, _⟩ => rfl
  | ⟨.invariant, type⟩ => TypeRef.positions_argumentTypePieces type
  | ⟨.covariant, type⟩ => TypeRef.positions_argumentTypePieces type
  | ⟨.contravariant, type⟩ => TypeRef.positions_argumentTypePieces type

/-- A missing type is one gap. -/
theorem TypeRef.positions_argumentTypePieces :
    (type : Option TypeRef) →
    positions (TypeRef.argumentTypePieces type) = TypeRef.argumentTypeGaps type
  | none => rfl
  | some t => TypeRef.positions_pieces .argument t

end

/-- A type without gaps has a name. -/
theorem TypeRef.isResolved_of_gaps_eq_nil {position : GapPosition} {t : TypeRef}
    (h : t.gaps position = []) : t.isResolved = true := by
  obtain ⟨name, nullable, arguments⟩ := t
  cases name with
  | none => simp [TypeRef.gaps] at h
  | some name => rfl

/-! ## Writing pieces and types -/

namespace Draft

/-- Writing around the gaps appends all text and returns all gaps. -/
theorem writeAroundGaps_eq (d : Draft) (ps : List Piece) :
    d.writeAroundGaps ps = (d.raw (joinedText ps), positions ps) := by
  induction ps generalizing d with
  | nil => simp [writeAroundGaps]
  | cons p rest ih => cases p <;> simp [writeAroundGaps, ih]

/-- Without gaps both ways of writing pieces come to the same. -/
theorem writeUntilGap_of_positions_eq_nil (d : Draft) {ps : List Piece} (h : positions ps = []) :
    d.writeUntilGap ps = (d.raw (joinedText ps), none) := by
  induction ps generalizing d with
  | nil => simp [writeUntilGap]
  | cons p rest ih =>
      cases p with
      | text s =>
          rw [writeUntilGap, ih (d.raw s) h, raw_raw]
          rfl
      | gap position => simp at h

/-- Writing a type around its gaps appends its spelling and returns a fault for every gap. -/
theorem writeTypeAround_eq (d : Draft) (t : TypeRef) (symbol : String) :
    d.writeTypeAround t symbol
      = (d.raw t.spelling, (t.gaps .property).map (.unresolvable symbol)) := by
  simp only [writeTypeAround]
  rw [writeAroundGaps_eq, TypeRef.joinedText_pieces, TypeRef.positions_pieces]

/-- A type without gaps is written completely. -/
theorem writeType_of_gaps_eq_nil (d : Draft) {t : TypeRef} (h : t.gaps .property = [])
    (symbol : String) : d.writeType t symbol = (d.raw t.spelling, none) := by
  rw [← TypeRef.positions_pieces] at h
  simp only [writeType]
  rw [writeUntilGap_of_positions_eq_nil d h, TypeRef.joinedText_pieces]
  rfl

end Draft

end Stubsmith
