import Stubsmith.Proofs.Kotlin.TypeReading

/-!
# The characters of a type's text

All that is written of a type is its names and a few signs and keywords that set them off. So what
stands in no name and in no sign does not stand in the text of the type
(`TypeRef.not_mem_spelling`).
-/

namespace Stubsmith

open Kotlin

namespace Kotlin

/-- The texts that are written around the names of a type. -/
def typeSigns : List String :=
  ["<", ">", ", ", "?", "*", "out", "in", " "]

/-- The keyword of a variance and the blank behind it are signs. -/
theorem mem_typeSigns_of_mem_leadPieces {v : Variance} {s : String} (h : .text s ∈ v.leadPieces) :
    s ∈ typeSigns := by
  cases v with
  | invariant => cases h
  | covariant | contravariant | star =>
      simp only [Variance.leadPieces, List.mem_cons, List.not_mem_nil, or_false,
        Piece.text.injEq] at h
      rcases h with rfl | rfl <;> decide

end Kotlin

mutual

/-- A text among the pieces of a type is one of its names or a sign. -/
theorem TypeRef.text_mem_pieces {s : String} (position : GapPosition) :
    (t : TypeRef) → .text s ∈ t.pieces position → s ∈ t.names ∨ s ∈ typeSigns
  | ⟨none, _, _⟩, h => by simp [TypeRef.pieces] at h
  | ⟨some name, nullable, arguments⟩, h => by
      rw [TypeRef.pieces, List.mem_cons, List.mem_append] at h
      rcases h with h | h | h
      · injection h with h
        exact Or.inl (h ▸ List.mem_cons_self)
      · split at h
        · cases h
        rw [List.mem_cons, List.mem_append, List.mem_singleton] at h
        rcases h with h | h | h
        · injection h with h
          exact Or.inr (h ▸ by decide)
        · rcases TypeRef.text_mem_argumentsPieces true arguments h with h | h
          · exact Or.inl (List.mem_cons_of_mem name h)
          · exact Or.inr h
        · injection h with h
          exact Or.inr (h ▸ by decide)
      · split at h
        · injection List.mem_singleton.mp h with h
          exact Or.inr (h ▸ by decide)
        · cases h

/-- A text among the pieces of generic arguments is one of their names or a sign. -/
theorem TypeRef.text_mem_argumentsPieces {s : String} (isFirst : Bool) :
    (arguments : List (Projection TypeRef)) →
    .text s ∈ TypeRef.argumentsPieces isFirst arguments →
    s ∈ TypeRef.argumentsNames arguments ∨ s ∈ typeSigns
  | [], h => by cases h
  | a :: rest, h => by
      rw [TypeRef.argumentsPieces, List.mem_append, List.mem_append] at h
      rw [TypeRef.argumentsNames, List.mem_append]
      rcases h with h | h | h
      · split at h
        · cases h
        · injection List.mem_singleton.mp h with h
          exact Or.inr (h ▸ by decide)
      · rcases TypeRef.text_mem_argumentPieces a h with h | h
        · exact Or.inl (Or.inl h)
        · exact Or.inr h
      · rcases TypeRef.text_mem_argumentsPieces false rest h with h | h
        · exact Or.inl (Or.inr h)
        · exact Or.inr h

/-- A text among the pieces of one generic argument is one of its names or a sign. -/
theorem TypeRef.text_mem_argumentPieces {s : String} :
    (a : Projection TypeRef) → .text s ∈ TypeRef.argumentPieces a →
    s ∈ TypeRef.argumentNames a ∨ s ∈ typeSigns
  | ⟨.star, _⟩, h => by
      injection List.mem_singleton.mp h with h
      exact Or.inr (h ▸ by decide)
  | ⟨.invariant, type⟩, h => TypeRef.text_mem_argumentTypePieces type h
  | ⟨.covariant, type⟩, h => by
      rcases List.mem_append.mp h with h | h
      · exact Or.inr (mem_typeSigns_of_mem_leadPieces h)
      · exact TypeRef.text_mem_argumentTypePieces type h
  | ⟨.contravariant, type⟩, h => by
      rcases List.mem_append.mp h with h | h
      · exact Or.inr (mem_typeSigns_of_mem_leadPieces h)
      · exact TypeRef.text_mem_argumentTypePieces type h

/-- A text among the pieces of the type of a generic argument is one of its names or a sign. -/
theorem TypeRef.text_mem_argumentTypePieces {s : String} :
    (type : Option TypeRef) → .text s ∈ TypeRef.argumentTypePieces type →
    s ∈ TypeRef.argumentTypeNames type ∨ s ∈ typeSigns
  | none, h => by cases List.mem_singleton.mp h
  | some t, h => TypeRef.text_mem_pieces .argument t h

end

/-- A character of joined pieces stands in the text of one of them. -/
theorem Kotlin.Piece.exists_text_of_mem_joinedText {x : Char} {ps : List Piece}
    (h : x ∈ (joinedText ps).toList) : ∃ s, .text s ∈ ps ∧ x ∈ s.toList := by
  induction ps with
  | nil => cases h
  | cons p rest ih =>
      cases p with
      | text s =>
          rw [joinedText_cons_text, String.toList_append, List.mem_append] at h
          rcases h with h | h
          · exact ⟨s, List.mem_cons_self, h⟩
          · obtain ⟨u, hu, hx⟩ := ih h
            exact ⟨u, List.mem_cons_of_mem _ hu, hx⟩
      | gap position =>
          obtain ⟨u, hu, hx⟩ := ih h
          exact ⟨u, List.mem_cons_of_mem _ hu, hx⟩

/-- **The characters of a type's text.** What stands in none of the names of a type and in none of
the signs does not stand in its text. -/
theorem TypeRef.not_mem_spelling {x : Char} {t : TypeRef}
    (hnames : ∀ name ∈ t.names, x ∉ name.toList)
    (hsigns : ∀ sign ∈ typeSigns, x ∉ sign.toList) : x ∉ t.spelling.toList := by
  rw [← t.joinedText_pieces .property]
  intro h
  obtain ⟨s, hs, hx⟩ := Piece.exists_text_of_mem_joinedText h
  rcases t.text_mem_pieces .property hs with hname | hsign
  · exact hnames s hname hx
  · exact hsigns s hsign hx

end Stubsmith
