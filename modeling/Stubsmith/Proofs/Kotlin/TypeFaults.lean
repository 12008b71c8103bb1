import Stubsmith.Proofs.Kotlin.TypeGap

/-!
# The faults of a type

How many faults a type has is counted by recursion on the type (`TypeRef.gapCount`), without regard
to how it is written. Both ways of writing a type follow that count: around its gaps there is a
fault for each of them, and up to the first gap that of this one is the only fault, if there is any
(`Draft.writings_follow_gaps`).
-/

namespace Stubsmith

open Kotlin

/-! ## Counting what was not resolved -/

mutual

/-- How many parts of a type were not resolved. A type without a name is one of them, whatever is
below it. -/
def TypeRef.gapCount : TypeRef → Nat
  | ⟨none, _, _⟩ => 1
  | ⟨some _, _, arguments⟩ => TypeRef.argumentsGapCount arguments

/-- How many parts of generic arguments were not resolved. -/
def TypeRef.argumentsGapCount : List (Projection TypeRef) → Nat
  | [] => 0
  | a :: rest => TypeRef.argumentGapCount a + TypeRef.argumentsGapCount rest

/-- How many parts of one generic argument were not resolved. A star has none. -/
def TypeRef.argumentGapCount : Projection TypeRef → Nat
  | ⟨.star, _⟩ => 0
  | ⟨.invariant, type⟩ => TypeRef.argumentTypeGapCount type
  | ⟨.covariant, type⟩ => TypeRef.argumentTypeGapCount type
  | ⟨.contravariant, type⟩ => TypeRef.argumentTypeGapCount type

/-- How many parts of the type of a generic argument were not resolved. A missing type is one. -/
def TypeRef.argumentTypeGapCount : Option TypeRef → Nat
  | none => 1
  | some t => TypeRef.gapCount t

end

mutual

/-- A type has as many gaps as parts that were not resolved. -/
theorem TypeRef.length_gaps (position : GapPosition) :
    (t : TypeRef) → (t.gaps position).length = t.gapCount
  | ⟨none, _, _⟩ => rfl
  | ⟨some _, _, arguments⟩ => TypeRef.length_argumentsGaps arguments

/-- The gaps of generic arguments are counted one argument after the other. -/
theorem TypeRef.length_argumentsGaps :
    (arguments : List (Projection TypeRef)) →
    (TypeRef.argumentsGaps arguments).length = TypeRef.argumentsGapCount arguments
  | [] => rfl
  | a :: rest => by
      have ha := TypeRef.length_argumentGaps a
      have hrest := TypeRef.length_argumentsGaps rest
      rw [TypeRef.argumentsGaps, TypeRef.argumentsGapCount, List.length_append, ha, hrest]

/-- A star has no gaps, and any other argument has those of its type. -/
theorem TypeRef.length_argumentGaps :
    (a : Projection TypeRef) →
    (TypeRef.argumentGaps a).length = TypeRef.argumentGapCount a
  | ⟨.star, _⟩ => rfl
  | ⟨.invariant, type⟩ => TypeRef.length_argumentTypeGaps type
  | ⟨.covariant, type⟩ => TypeRef.length_argumentTypeGaps type
  | ⟨.contravariant, type⟩ => TypeRef.length_argumentTypeGaps type

/-- A missing type is one gap. -/
theorem TypeRef.length_argumentTypeGaps :
    (type : Option TypeRef) →
    (TypeRef.argumentTypeGaps type).length = TypeRef.argumentTypeGapCount type
  | none => rfl
  | some t => TypeRef.length_gaps .argument t

end

/-! ## Where the gaps are -/

mutual

/-- Below an argument all gaps are gaps of arguments. -/
theorem TypeRef.eq_argument_of_mem_gaps :
    (t : TypeRef) → ∀ position ∈ t.gaps .argument, position = .argument
  | ⟨none, _, _⟩ => fun _ hposition => List.mem_singleton.mp hposition
  | ⟨some _, _, arguments⟩ => TypeRef.eq_argument_of_mem_argumentsGaps arguments

/-- All gaps of generic arguments are gaps of arguments. -/
theorem TypeRef.eq_argument_of_mem_argumentsGaps :
    (arguments : List (Projection TypeRef)) →
    ∀ position ∈ TypeRef.argumentsGaps arguments, position = .argument
  | [] => nofun
  | a :: rest => by
      intro position hposition
      rw [TypeRef.argumentsGaps, List.mem_append] at hposition
      rcases hposition with ha | hrest
      · exact TypeRef.eq_argument_of_mem_argumentGaps a position ha
      · exact TypeRef.eq_argument_of_mem_argumentsGaps rest position hrest

/-- All gaps of one generic argument are gaps of arguments. -/
theorem TypeRef.eq_argument_of_mem_argumentGaps :
    (a : Projection TypeRef) →
    ∀ position ∈ TypeRef.argumentGaps a, position = .argument
  | ⟨.star, _⟩ => nofun
  | ⟨.invariant, type⟩ => TypeRef.eq_argument_of_mem_argumentTypeGaps type
  | ⟨.covariant, type⟩ => TypeRef.eq_argument_of_mem_argumentTypeGaps type
  | ⟨.contravariant, type⟩ => TypeRef.eq_argument_of_mem_argumentTypeGaps type

/-- So is a missing type, and so are all gaps below one that is there. -/
theorem TypeRef.eq_argument_of_mem_argumentTypeGaps :
    (type : Option TypeRef) →
    ∀ position ∈ TypeRef.argumentTypeGaps type, position = .argument
  | none => fun _ hposition => List.mem_singleton.mp hposition
  | some t => TypeRef.eq_argument_of_mem_gaps t

end

namespace TypeRef

variable {t : TypeRef}

/-- A type without a name is a gap as a whole. -/
theorem gaps_of_name_eq_none (h : t.name = none) (position : GapPosition) :
    t.gaps position = [position] := by
  obtain ⟨name, nullable, arguments⟩ := t
  subst h
  rfl

/-- Nothing is spelled of a type without a name. -/
theorem spelling_of_name_eq_none (h : t.name = none) : t.spelling = "" := by
  obtain ⟨name, nullable, arguments⟩ := t
  subst h
  rfl

/-- A type with a name has gaps in its arguments only. -/
theorem eq_argument_of_mem_gaps_of_name (h : t.name ≠ none) {position place : GapPosition}
    (hplace : place ∈ t.gaps position) : place = .argument := by
  obtain ⟨_ | name, nullable, arguments⟩ := t
  · exact absurd rfl h
  · exact eq_argument_of_mem_argumentsGaps arguments place hplace

end TypeRef

/-! ## Writing a type both ways -/

namespace Draft

/-- What comes of writing a type around its gaps, and of writing it up to the first one. -/
structure TypeWritings (d : Draft) (t : TypeRef) (symbol : String)
    (around : Draft × List RenderFault) (strict : Draft × Option RenderFault) : Prop where
  /-- Around the gaps there is a fault for every part that was not resolved. -/
  length_faults : around.2.length = t.gapCount
  /-- The first one is about the type of the property exactly if that has no name, -/
  head_property_iff :
    (∃ owner, around.2.head? = some (.unresolvable owner .property)) ↔ t.name = none
  /-- and then it is the only one and nothing is written. -/
  of_unnamed : t.name = none → around = (d, [.unresolvable symbol .property])
  /-- All others are about generic arguments. -/
  of_named : t.name ≠ none → ∀ fault ∈ around.2, fault = .unresolvable symbol .argument
  /-- Writing up to the first gap ends without a fault exactly if there is no gap, -/
  complete_iff : strict.2 = none ↔ t.gapCount = 0
  /-- and then the same is written. -/
  of_complete : t.gapCount = 0 → strict.1 = around.1
  /-- Otherwise it ends with the first of the faults, -/
  fault_eq : strict.2 = around.2.head?
  /-- and what is written is the part before the first gap: whatever type is put in the place of
  that gap is written right behind it. -/
  of_incomplete : t.gapCount ≠ 0 → ∃ part rest, strict.1 = d.raw part ∧
    around.1 = d.raw (part ++ rest) ∧
    ∀ u : TypeRef, (d.writeTypeAround (u.fillGapOf t) symbol).1 = d.raw (part ++ u.spelling ++ rest)
  /-- Neither changes the depth. -/
  depth_eq : strict.1.depth = d.depth ∧ around.1.depth = d.depth
  /-- The text of the type alone is what is written up to the first gap, if there is none. -/
  toText_eq_ok_iff : ∀ text, t.toText = .ok text ↔ strict = (d.raw text, none)
  toText_eq_error_iff : ∀ position,
    t.toText = .error (.unresolvable "" position) ↔ strict.2 = some (.unresolvable symbol position)

/-- A type without gaps is written completely into any draft, and one with gaps up to the first. -/
theorem writeType_cases (t : TypeRef) :
    (t.gaps .property = [] ∧
      ∀ (d : Draft) (symbol : String), d.writeType t symbol = (d.raw t.spelling, none)) ∨
    ∃ position others part rest, t.gaps .property = position :: others ∧
      t.spelling = part ++ rest ∧
      (∀ (d : Draft) (symbol : String),
        d.writeType t symbol = (d.raw part, some (.unresolvable symbol position))) ∧
      ∀ u : TypeRef, (u.fillGapOf t).spelling = part ++ u.spelling ++ rest := by
  cases hgaps : t.gaps .property with
  | nil => exact Or.inl ⟨rfl, fun d symbol => d.writeType_of_gaps_eq_nil hgaps symbol⟩
  | cons position others =>
      obtain ⟨part, rest, hparts⟩ := TypeRef.exists_parts_of_gaps hgaps
      exact Or.inr ⟨position, others, part, rest, rfl, hparts⟩

/-! ### The faults around the gaps -/

section

variable {t : TypeRef} (d : Draft) (symbol : String)

theorem length_writeTypeAround (t : TypeRef) :
    (d.writeTypeAround t symbol).2.length = t.gapCount := by
  rw [writeTypeAround_eq, List.length_map, TypeRef.length_gaps]

/-- Around the gap that is the whole type nothing is written. -/
theorem writeTypeAround_of_name_eq_none (h : t.name = none) :
    d.writeTypeAround t symbol = (d, [.unresolvable symbol .property]) := by
  rw [writeTypeAround_eq, TypeRef.gaps_of_name_eq_none h, TypeRef.spelling_of_name_eq_none h,
    raw_empty]
  rfl

/-- A type with a name has faults in its arguments only. -/
theorem eq_argument_of_mem_writeTypeAround (h : t.name ≠ none) :
    ∀ fault ∈ (d.writeTypeAround t symbol).2, fault = .unresolvable symbol .argument := by
  intro fault hfault
  rw [writeTypeAround_eq] at hfault
  obtain ⟨position, hposition, rfl⟩ := List.mem_map.mp hfault
  rw [TypeRef.eq_argument_of_mem_gaps_of_name h hposition]

theorem head_writeTypeAround_eq_property_iff :
    (∃ owner, (d.writeTypeAround t symbol).2.head? = some (.unresolvable owner .property)) ↔
      t.name = none := by
  constructor
  · rintro ⟨owner, hfirst⟩
    refine Decidable.byContradiction fun hname => ?_
    have hfault :=
      eq_argument_of_mem_writeTypeAround d symbol hname _ (List.mem_of_head? hfirst)
    cases hfault
  · intro hname
    rw [writeTypeAround_of_name_eq_none d symbol hname]
    exact ⟨symbol, rfl⟩

end

/-! ### Both ways -/

/-- **Both ways of writing a type follow its gaps.** Around the gaps there are as many faults as
parts that were not resolved. Up to the first gap the writing ends there, with the first of these
faults; if there is no gap, both come to the same. -/
theorem writings_follow_gaps (d : Draft) (t : TypeRef) (symbol : String) :
    d.TypeWritings t symbol (d.writeTypeAround t symbol) (d.writeType t symbol) := by
  have hlength := length_writeTypeAround d symbol t
  have hhead := head_writeTypeAround_eq_property_iff (t := t) d symbol
  have hunnamed := writeTypeAround_of_name_eq_none (t := t) d symbol
  have hnamed := eq_argument_of_mem_writeTypeAround (t := t) d symbol
  have hcount := TypeRef.length_gaps .property t
  rw [writeTypeAround_eq] at hlength hhead hunnamed hnamed ⊢
  rcases writeType_cases t with
    ⟨hgaps, hwrite⟩ | ⟨position, others, part, rest, hgaps, hspelling, hwrite, hfill⟩
  · have hzero : t.gapCount = 0 := by rw [← hcount, hgaps]; rfl
    have htext : t.toText = .ok t.spelling := by
      rw [TypeRef.toText, hwrite]
      simp [raw]
    rw [hwrite]
    refine ⟨hlength, hhead, hunnamed, hnamed, by simp [hzero], fun _ => rfl, by simp [hgaps],
      fun hne => absurd hzero hne, ⟨rfl, rfl⟩, ?_, ?_⟩
    · simp [htext]
    · simp [htext]
  · have hne : t.gapCount ≠ 0 := by rw [← hcount, hgaps]; simp
    have htext : t.toText = .error (.unresolvable "" position) := by
      rw [TypeRef.toText, hwrite]
    rw [hwrite]
    refine ⟨hlength, hhead, hunnamed, hnamed, by simp [hne], fun hzero => absurd hzero hne,
      by simp [hgaps], fun _ => ⟨part, rest, rfl, by rw [hspelling], ?_⟩, ⟨rfl, rfl⟩, ?_, ?_⟩
    · intro u
      rw [writeTypeAround_eq, hfill]
    · simp [htext]
    · simp [htext]

example :
    let map : TypeRef :=
      ((TypeRef.named "Map").withArgument { variance := .covariant }).withArgument
        (.invariant (.named "Int"))
    map.gapCount = 1 ∧ (({} : Draft).writeTypeAround map.asNullable "").1.text = "Map<out , Int>?" ∧
      (({} : Draft).writeType map.asNullable "").1.text = "Map<out " := by
  decide

end Draft

end Stubsmith
