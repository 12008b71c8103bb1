import Stubsmith.Proofs.Kotlin.TypeText

/-!
# The first gap of a type

Where the first gap of a type stands is told by filling it: `TypeRef.fillGapOf` puts a type in the
place of the first part that was not resolved. The pieces of the filled type are those before the
gap, those of the type that was put there, and those behind the gap. A draft that is written up to
the first gap ends between the first and the second of these.
-/

namespace Stubsmith

open Kotlin

/-! ## Filling the first gap -/

mutual

/-- The type with `u` in the place of its first part that was not resolved. -/
def TypeRef.fillGapOf (u : TypeRef) : TypeRef → TypeRef
  | ⟨none, _, _⟩ => u
  | ⟨some name, nullable, arguments⟩ => ⟨some name, nullable, TypeRef.fillArguments u arguments⟩

/-- The generic arguments with `u` in the place of the first part that was not resolved. -/
def TypeRef.fillArguments (u : TypeRef) : List (Projection TypeRef) → List (Projection TypeRef)
  | [] => []
  | a :: rest =>
    if (TypeRef.argumentGaps a).isEmpty then a :: TypeRef.fillArguments u rest
    else TypeRef.fillArgument u a :: rest

/-- The generic argument with `u` in the place of the first part that was not resolved. -/
def TypeRef.fillArgument (u : TypeRef) : Projection TypeRef → Projection TypeRef
  | ⟨.star, type⟩ => ⟨.star, type⟩
  | ⟨.invariant, type⟩ => TypeArgument.invariant (TypeRef.fillType u type)
  | ⟨.covariant, type⟩ => TypeArgument.covariant (TypeRef.fillType u type)
  | ⟨.contravariant, type⟩ => TypeArgument.contravariant (TypeRef.fillType u type)

/-- The type of a generic argument with `u` in the place of the first part that was not resolved,
which is the whole if it is missing. -/
def TypeRef.fillType (u : TypeRef) : Option TypeRef → TypeRef
  | none => u
  | some t => u.fillGapOf t

end

/-! ## Pieces around the first gap -/

namespace Kotlin.Piece

/-- The pieces with others in the place of the first gap. -/
def fillFirst (fill : GapPosition → List Piece) : List Piece → List Piece
  | [] => []
  | .text s :: rest => .text s :: fillFirst fill rest
  | .gap position :: rest => fill position ++ rest

/-- Pieces with a gap can be cut at the first one. -/
theorem exists_eq_append_gap {ps : List Piece} {position : GapPosition} {others : List GapPosition}
    (h : positions ps = position :: others) :
    ∃ before after, ps = before ++ .gap position :: after ∧ positions before = [] := by
  induction ps with
  | nil => simp at h
  | cons p rest ih =>
      cases p with
      | text s =>
          obtain ⟨before, after, hrest, hbefore⟩ := ih h
          exact ⟨.text s :: before, after, by rw [hrest, List.cons_append], hbefore⟩
      | gap first =>
          rw [positions_cons_gap, List.cons.injEq] at h
          exact ⟨[], rest, by rw [h.1, List.nil_append], rfl⟩

variable {fill : GapPosition → List Piece}

/-- Behind pieces without gaps the first gap is the first of the others. -/
theorem fillFirst_append_of_eq_nil {ps : List Piece} (h : positions ps = []) (qs : List Piece) :
    fillFirst fill (ps ++ qs) = ps ++ fillFirst fill qs := by
  induction ps with
  | nil => rfl
  | cons p rest ih =>
      cases p with
      | text s => rw [List.cons_append, fillFirst, ih h, List.cons_append]
      | gap position => simp at h

/-- Pieces without gaps stay as they are. -/
theorem fillFirst_of_eq_nil {ps : List Piece} (h : positions ps = []) : fillFirst fill ps = ps := by
  have hnil : fillFirst fill (ps ++ []) = ps ++ fillFirst fill [] :=
    fillFirst_append_of_eq_nil h []
  rwa [fillFirst, List.append_nil] at hnil

/-- Before pieces that have a gap, the others do not matter. -/
theorem fillFirst_append_of_ne_nil {ps : List Piece} (h : positions ps ≠ []) (qs : List Piece) :
    fillFirst fill (ps ++ qs) = fillFirst fill ps ++ qs := by
  cases hps : positions ps with
  | nil => exact absurd hps h
  | cons position others =>
      obtain ⟨before, after, rfl, hbefore⟩ := exists_eq_append_gap hps
      rw [List.append_assoc, fillFirst_append_of_eq_nil hbefore,
        fillFirst_append_of_eq_nil hbefore, List.cons_append, fillFirst, fillFirst,
        List.append_assoc, List.append_assoc]

/-- Nor do others without gaps. -/
theorem fillFirst_append_of_right {qs : List Piece} (h : positions qs = []) (ps : List Piece) :
    fillFirst fill (ps ++ qs) = fillFirst fill ps ++ qs := by
  by_cases hps : positions ps = []
  · rw [fillFirst_append_of_eq_nil hps, fillFirst_of_eq_nil h, fillFirst_of_eq_nil hps]
  · exact fillFirst_append_of_ne_nil hps qs

end Kotlin.Piece

open Kotlin.Piece

mutual

/-- The pieces of the filled type have those of `u` in the place of the first gap. -/
theorem TypeRef.pieces_fillGapOf (u : TypeRef) (position : GapPosition) :
    (t : TypeRef) → (u.fillGapOf t).pieces position = fillFirst u.pieces (t.pieces position)
  | ⟨none, _, _⟩ => (List.append_nil _).symm
  | ⟨some _, nullable, []⟩ => by
      cases nullable with
      | false => rfl
      | true => rfl
  | ⟨some name, nullable, a :: rest⟩ => by
      have harguments := TypeRef.argumentsPieces_fillArguments u true (a :: rest)
      have hne : (TypeRef.fillArguments u (a :: rest)).isEmpty = false := by
        rw [TypeRef.fillArguments]
        split
        · rfl
        · rfl
      -- the bracket and the mark behind the arguments are no gaps
      have hend : positions (.text ">" :: (if nullable then [.text "?"] else [])) = [] := by
        cases nullable <;> rfl
      simp only [TypeRef.fillGapOf, TypeRef.pieces, hne, List.isEmpty_cons, Bool.false_eq_true,
        if_false, fillFirst, List.cons_append, List.append_assoc, List.nil_append, harguments]
      rw [fillFirst_append_of_right hend]

/-- The pieces of generic arguments have those of `u` in the place of their first gap. -/
theorem TypeRef.argumentsPieces_fillArguments (u : TypeRef) (isFirst : Bool) :
    (arguments : List (Projection TypeRef)) →
    TypeRef.argumentsPieces isFirst (TypeRef.fillArguments u arguments)
      = fillFirst u.pieces (TypeRef.argumentsPieces isFirst arguments)
  | [] => rfl
  | a :: rest => by
      have ha := TypeRef.argumentPieces_fillArgument u a
      have hrest := TypeRef.argumentsPieces_fillArguments u false rest
      have hcomma : positions (if isFirst then [] else [Piece.text ", "]) = [] := by
        cases isFirst <;> rfl
      have hgaps := TypeRef.positions_argumentPieces a
      rw [TypeRef.fillArguments]
      by_cases hnil : TypeRef.argumentGaps a = []
      · rw [if_pos (by rw [hnil]; rfl), TypeRef.argumentsPieces, TypeRef.argumentsPieces, hrest,
          fillFirst_append_of_eq_nil hcomma,
          fillFirst_append_of_eq_nil (hgaps.trans hnil)]
      · rw [if_neg (by simpa using hnil), TypeRef.argumentsPieces, TypeRef.argumentsPieces, ha,
          fillFirst_append_of_eq_nil hcomma,
          fillFirst_append_of_ne_nil (by rw [hgaps]; exact hnil)]

/-- A star is not filled, and any other argument keeps its keyword. -/
theorem TypeRef.argumentPieces_fillArgument (u : TypeRef) :
    (a : Projection TypeRef) →
    TypeRef.argumentPieces (TypeRef.fillArgument u a)
      = fillFirst u.pieces (TypeRef.argumentPieces a)
  | ⟨.star, _⟩ => rfl
  | ⟨.invariant, type⟩ => TypeRef.pieces_fillType u type
  | ⟨.covariant, type⟩ => congrArg (Variance.covariant.leadPieces ++ ·)
      (TypeRef.pieces_fillType u type)
  | ⟨.contravariant, type⟩ => congrArg (Variance.contravariant.leadPieces ++ ·)
      (TypeRef.pieces_fillType u type)

/-- A missing type is a gap, and `u` takes its place. -/
theorem TypeRef.pieces_fillType (u : TypeRef) :
    (type : Option TypeRef) →
    (TypeRef.fillType u type).pieces .argument
      = fillFirst u.pieces (TypeRef.argumentTypePieces type)
  | none => (List.append_nil _).symm
  | some t => TypeRef.pieces_fillGapOf u .argument t

end

/-! ## Writing up to the first gap -/

/-- Writing pieces up to a gap leaves the text before it. -/
theorem Draft.writeUntilGap_append_gap (d : Draft) {before : List Piece}
    (h : positions before = []) (position : GapPosition) (after : List Piece) :
    d.writeUntilGap (before ++ .gap position :: after)
      = (d.raw (joinedText before), some position) := by
  induction before generalizing d with
  | nil => simp [writeUntilGap]
  | cons p rest ih =>
      cases p with
      | text s =>
          rw [List.cons_append, writeUntilGap, ih (d.raw s) h, raw_raw, joinedText_cons_text]
      | gap first => simp at h

/-- **Writing stops where the gap would have been written.** A type with a gap is spelled in two
parts. Writing it up to the first gap leaves the first part, and whatever type is put in the place
of the gap is spelled between the two. -/
theorem TypeRef.exists_parts_of_gaps {t : TypeRef} {position : GapPosition}
    {others : List GapPosition} (h : t.gaps .property = position :: others) :
    ∃ part rest, t.spelling = part ++ rest ∧
      (∀ (d : Draft) (symbol : String),
        d.writeType t symbol = (d.raw part, some (.unresolvable symbol position))) ∧
      ∀ u : TypeRef, (u.fillGapOf t).spelling = part ++ u.spelling ++ rest := by
  rw [← positions_pieces] at h
  obtain ⟨before, after, hpieces, hbefore⟩ := exists_eq_append_gap h
  refine ⟨joinedText before, joinedText after, ?_, ?_, ?_⟩
  · rw [← joinedText_pieces .property, hpieces, joinedText_append, joinedText_cons_gap]
  · intro d symbol
    simp only [Draft.writeType]
    rw [hpieces, d.writeUntilGap_append_gap hbefore]
    rfl
  · intro u
    rw [← joinedText_pieces .property (u.fillGapOf t), pieces_fillGapOf, hpieces,
      fillFirst_append_of_eq_nil hbefore, fillFirst, joinedText_append, joinedText_append,
      joinedText_pieces, String.append_assoc]

end Stubsmith
