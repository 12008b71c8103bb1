import Stubsmith.Kotlin.Name

/-!
# Plain identifiers

`IsPlainName` is the grammar of plain identifiers, and `NameFault.Describes` says of each fault
which names have it, both without the check that decides them. A name is an identifier exactly if it
follows the grammar (`isIdentifier_iff`), and else it has the fault that is found and no other
(`identifierFault?_eq_some_iff`).
-/

namespace Stubsmith.Kotlin

open Stubsmith.Text

/-! ## Characters of identifiers -/

/-- An identifier begins with a letter or an underscore. -/
def IsStart (x : Char) : Prop :=
  isAlphabetic x = true ∨ x = '_'

/-- An identifier goes on with letters, numbers and underscores. -/
def IsPart (x : Char) : Prop :=
  isAlphabetic x = true ∨ isNumeric x = true ∨ x = '_'

theorem isIdentifierStart_iff {x : Char} : isIdentifierStart x = true ↔ IsStart x := by
  simp [isIdentifierStart, IsStart]

theorem isIdentifierPart_iff {x : Char} : isIdentifierPart x = true ↔ IsPart x := by
  simp [isIdentifierPart, IsPart, or_assoc]

/-- What an identifier may begin with may also stand further on in it. -/
theorem isIdentifierPart_of_isIdentifierStart {x : Char} (h : isIdentifierStart x = true) :
    isIdentifierPart x = true := by
  rw [isIdentifierStart, Bool.or_eq_true] at h
  rw [isIdentifierPart, Bool.or_eq_true, Bool.or_eq_true]
  rcases h with h | h
  · exact Or.inl (Or.inl h)
  · exact Or.inr h

/-- A spelling without fault has a first character of the right sort and others of theirs. -/
theorem spellingFault?_cons_eq_none_iff (first : Char) (rest : List Char) :
    spellingFault? (first :: rest) = none
      ↔ isIdentifierStart first = true ∧ ∀ x ∈ rest, isIdentifierPart x = true := by
  rw [spellingFault?]
  by_cases hfirst : isIdentifierStart first = true
  · simp [hfirst]
  · simp [hfirst]

/-- A plain identifier has only characters that may stand in one. -/
theorem IsIdentifier.isIdentifierPart {name : String} (h : IsIdentifier name) :
    ∀ x ∈ name.toList, isIdentifierPart x = true := by
  unfold IsIdentifier identifierFault? at h
  split at h
  · simp at h
  intro x hx
  cases hname : name.toList with
  | nil => simp [hname] at hx
  | cons first rest =>
      rw [hname] at h hx
      obtain ⟨hfirst, hrest⟩ := (spellingFault?_cons_eq_none_iff first rest).mp h
      rcases List.mem_cons.mp hx with rfl | hx
      · exact isIdentifierPart_of_isIdentifierStart hfirst
      · exact hrest x hx

/-- What may not stand in an identifier does not stand in it. -/
theorem IsIdentifier.not_mem {name : String} (h : IsIdentifier name) {x : Char}
    (hx : Kotlin.isIdentifierPart x = false) : x ∉ name.toList := by
  intro hmem
  rw [h.isIdentifierPart x hmem] at hx
  cases hx

/-! ## The grammar -/

/-- The grammar of plain identifiers: a letter or an underscore, then letters, numbers and
underscores, and no hard keyword. -/
structure IsPlainName (name : String) : Prop where
  spelling : ∃ first rest, name.toList = first :: rest ∧ IsStart first ∧ ∀ x ∈ rest, IsPart x
  not_keyword : name ∉ hardKeywords

/-- What is wrong with a name that has the fault. -/
inductive NameFault.Describes (name : String) : NameFault → Prop where
  | hardKeyword (h : name ∈ hardKeywords) : Describes name .hardKeyword
  | empty (h : name = "") : Describes name .empty
  | badStart {first : Char} {rest : List Char} (h : name.toList = first :: rest)
      (hfirst : ¬ IsStart first) : Describes name .badStart
  | badPart {first x : Char} {rest : List Char} (h : name.toList = first :: rest)
      (hfirst : IsStart first) (hx : x ∈ rest) (hpart : ¬ IsPart x) : Describes name .badPart

theorem isHardKeyword_iff {name : String} : isHardKeyword name = true ↔ name ∈ hardKeywords :=
  List.contains_iff_mem

/-- **Identifiers follow the grammar**, and nothing else does. -/
theorem isIdentifier_iff {name : String} : IsIdentifier name ↔ IsPlainName name := by
  constructor
  · intro h
    rw [IsIdentifier, identifierFault?] at h
    split at h
    · cases h
    next hkeyword =>
    refine ⟨?_, fun hmem => hkeyword (isHardKeyword_iff.mpr hmem)⟩
    cases hname : name.toList with
    | nil =>
        rw [hname] at h
        cases h
    | cons first rest =>
        rw [hname] at h
        obtain ⟨hfirst, hrest⟩ := (spellingFault?_cons_eq_none_iff first rest).mp h
        exact ⟨first, rest, rfl, isIdentifierStart_iff.mp hfirst,
          fun x hx => isIdentifierPart_iff.mp (hrest x hx)⟩
  · rintro ⟨⟨first, rest, hname, hfirst, hrest⟩, hkeyword⟩
    rw [IsIdentifier, identifierFault?, if_neg (fun h => hkeyword (isHardKeyword_iff.mp h)), hname,
      spellingFault?_cons_eq_none_iff]
    exact ⟨isIdentifierStart_iff.mpr hfirst, fun x hx => isIdentifierPart_iff.mpr (hrest x hx)⟩

instance (name : String) : Decidable (IsPlainName name) :=
  decidable_of_iff (IsIdentifier name) isIdentifier_iff

/-- The hard keywords are spelled like identifiers. -/
theorem spellingFault?_of_mem_hardKeywords :
    ∀ name ∈ hardKeywords, spellingFault? name.toList = none := by
  decide

/-- So a name whose spelling has a fault is no hard keyword. -/
theorem identifierFault?_of_spellingFault? {name : String} {fault : NameFault}
    (h : spellingFault? name.toList = some fault) : identifierFault? name = some fault := by
  have hkeyword : ¬ isHardKeyword name = true := by
    intro hkeyword
    rw [spellingFault?_of_mem_hardKeywords name (isHardKeyword_iff.mp hkeyword)] at h
    cases h
  rw [identifierFault?, if_neg hkeyword, h]

/-- **The fault that is found is the one that the name has.** -/
theorem identifierFault?_eq_some_iff {name : String} {fault : NameFault} :
    identifierFault? name = some fault ↔ fault.Describes name := by
  constructor
  · intro h
    rw [identifierFault?] at h
    split at h
    next hkeyword =>
      cases h
      exact .hardKeyword (isHardKeyword_iff.mp hkeyword)
    cases hname : name.toList with
    | nil =>
        rw [hname] at h
        cases h
        exact .empty (String.toList_inj.mp hname)
    | cons first rest =>
        rw [hname, spellingFault?] at h
        split at h
        next hfirst =>
          cases h
          rw [Bool.not_eq_true', ← Bool.not_eq_true, isIdentifierStart_iff] at hfirst
          exact .badStart hname hfirst
        next hfirst =>
        rw [Bool.not_eq_true, Bool.not_eq_false', isIdentifierStart_iff] at hfirst
        split at h
        next hrest =>
          cases h
          obtain ⟨x, hx, hpart⟩ := List.any_eq_true.mp hrest
          rw [Bool.not_eq_true', ← Bool.not_eq_true, isIdentifierPart_iff] at hpart
          exact .badPart hname hfirst hx hpart
        next => cases h
  · intro h
    cases h with
    | hardKeyword hkeyword => rw [identifierFault?, if_pos (isHardKeyword_iff.mpr hkeyword)]
    | empty hempty =>
        rw [hempty]
        rfl
    | badStart hname hfirst =>
        apply identifierFault?_of_spellingFault?
        rw [hname, spellingFault?, if_pos]
        rwa [Bool.not_eq_true', ← Bool.not_eq_true, isIdentifierStart_iff]
    | badPart hname hfirst hx hpart =>
        apply identifierFault?_of_spellingFault?
        rw [hname, spellingFault?, if_neg, if_pos]
        · refine List.any_eq_true.mpr ⟨_, hx, ?_⟩
          rwa [Bool.not_eq_true', ← Bool.not_eq_true, isIdentifierPart_iff]
        · rwa [Bool.not_eq_true, Bool.not_eq_false', isIdentifierStart_iff]

end Stubsmith.Kotlin
