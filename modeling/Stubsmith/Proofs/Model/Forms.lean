import Mathlib.Tactic.SplitIfs
import Stubsmith.Proofs.Model.RoundTrip

/-!
# The two forms of a structured value

A structured value is read from a record or from a list. For both forms and each of the five types
in a declaration: the value is read if and only if each of its parts is.
-/

namespace Stubsmith

namespace Data

/-! ## Reading in steps -/

section

variable {ε α β : Type}

theorem toOption_eq_some_iff {r : Except ε α} {a : α} : r.toOption = some a ↔ r = .ok a := by
  cases r <;> simp [Except.toOption]

theorem toOption_bind {r : Except ε α} {f : α → Except ε β} :
    (r >>= f).toOption = r.toOption.bind fun a => (f a).toOption := by
  cases r <;> rfl

theorem bind_pure_eq_map {r : Except ε α} {f : α → β} :
    (r >>= fun a => pure (f a)) = r.map f := by
  cases r <;> rfl

theorem bind_eq_ok_iff {r : Except ε α} {f : α → Except ε β} {b : β} :
    (r >>= f) = .ok b ↔ ∃ a, r = .ok a ∧ f a = .ok b := by
  cases r <;> simp [bind, Except.bind]

theorem map_eq_ok_iff {r : Except ε α} {f : α → β} {b : β} :
    r.map f = .ok b ↔ ∃ a, r = .ok a ∧ f a = b := by
  cases r <;> simp [Except.map]

theorem pure_eq_ok_iff {a b : α} : (pure a : Except ε α) = .ok b ↔ a = b :=
  Except.ok.injEq a b ▸ Iff.rfl

/-- If a second step gives the result for one outcome of the first step only, then that outcome is
what the first step has to give. -/
theorem bind_eq_ok_iff_of_unique {r : Except ε α} {f : α → Except ε β} {a : α} {b : β}
    (h : ∀ x, f x = .ok b ↔ x = a) : (r >>= f) = .ok b ↔ r = .ok a := by
  simp only [bind_eq_ok_iff, h, exists_eq_right]

end

theorem required_eq_ok_iff {α : Type} {name : String} {held : Option α} {a : α} :
    required name held = .ok a ↔ held = some a := by
  cases held <;> simp [required]

theorem lookup_eq_none_of_not_mem {fields : List (String × Data)} {key : String}
    (h : key ∉ fields.map Prod.fst) : fields.lookup key = none := by
  refine List.lookup_eq_none_iff.mpr fun field hfield => bne_iff_ne.mpr fun hname => h ?_
  exact hname ▸ List.mem_map_of_mem hfield

section

variable {format : DataFormat} {size : Nat} {items : List Data}

theorem checkLength_of_le (h : items.length ≤ size) : checkLength format size items = .ok () :=
  if_neg fun hlong => Nat.not_lt.mpr h hlong.2

/-- The length of a list form matters only if it is too long. -/
theorem toShape_list {α : Type} {name : String}
    {ofFields : List (String × Data) → Except DataFault α}
    {ofItems : List Data → Except DataFault α} (h : items.length ≤ size) :
    toShape format name size ofFields ofItems (.list items) = ofItems items := by
  rw [toShape, checkLength_of_le h]
  cases ofItems items <;> rfl

end

end Data

open Data

variable {format : DataFormat} {fields : List (String × Data)} {items : List Data}

/-! ## Types -/

theorem TypeRef.readArguments_eq_readAll :
    TypeRef.readArguments format items = readAll (TypeArgument.ofData format) items := by
  induction items with
  | nil => rfl
  | cons d rest ih => rw [TypeRef.readArguments, ih, readAll]

theorem TypeRef.argumentsOfData_eq_toListOf :
    TypeRef.argumentsOfData format = toListOf (TypeArgument.ofData format) := by
  funext d
  cases d
  case list items => exact TypeRef.readArguments_eq_readAll
  all_goals rfl

/-- Reads one field of a type reference. -/
def TypeRef.readSlot (format : DataFormat) (slots : TypeRef.Slots) (key : String) (d : Data) :
    Except DataFault TypeRef.Slots :=
  if key = "name" then return { slots with name := ← toOptionalText d }
  else if key = "nullable" then return { slots with nullable := ← toBoolean d }
  else if key = "arguments" then
    return { slots with arguments := ← toListOf (TypeArgument.ofData format) d }
  else .ok slots

/-- The fields of a type reference are read one after another, as those of any record. -/
theorem TypeRef.readSlots_eq_readFields (slots : TypeRef.Slots) :
    TypeRef.readSlots format slots fields = readFields (TypeRef.readSlot format) slots fields := by
  induction fields generalizing slots with
  | nil => rfl
  | cons field rest ih =>
    simp only [TypeRef.readSlots, TypeRef.argumentsOfData_eq_toListOf, ih, readFields,
      TypeRef.readSlot]
    split_ifs
    all_goals simp only [bind_assoc, pure_bind, ok_bind]

theorem TypeRef.ofData_record_eq_ok_iff {v : TypeRef} :
    TypeRef.ofData format (.record fields) = .ok v
      ↔ readFields (TypeRef.readSlot format) {} fields
          = .ok ⟨v.name, v.nullable, v.arguments⟩ := by
  rw [TypeRef.ofData, TypeRef.readSlots_eq_readFields]
  refine bind_eq_ok_iff_of_unique fun slots => ?_
  obtain ⟨name, nullable, arguments⟩ := slots
  obtain ⟨⟩ := v
  simp [pure, Except.pure]

theorem TypeRef.ofData_list (h : items.length ≤ 3) :
    TypeRef.ofData format (.list items) = do
      let name ← itemOr none items 0 toOptionalText
      let nullable ← itemOr false items 1 toBoolean
      let arguments ← itemOr [] items 2 (toListOf (TypeArgument.ofData format))
      return ⟨name, nullable, arguments⟩ := by
  rw [TypeRef.ofData, checkLength_of_le h, TypeRef.argumentsOfData_eq_toListOf]
  rcases items with _ | ⟨first, _ | ⟨second, _ | ⟨third, rest⟩⟩⟩ <;> rfl

theorem TypeRef.ofData_list_eq_ok_iff (h : items.length ≤ 3) {v : TypeRef} :
    TypeRef.ofData format (.list items) = .ok v
      ↔ itemOr none items 0 toOptionalText = .ok v.name
        ∧ itemOr false items 1 toBoolean = .ok v.nullable
        ∧ itemOr [] items 2 (toListOf (TypeArgument.ofData format)) = .ok v.arguments := by
  rw [TypeRef.ofData_list h]
  obtain ⟨⟩ := v
  simp only [bind_eq_ok_iff, pure_eq_ok_iff, TypeRef.mk.injEq]
  grind

/-- A type that may be missing: it is if the tree is null. -/
def TypeRef.ofDataOrNull (format : DataFormat) (d : Data) : Except DataFault (Option TypeRef) :=
  if d.isNull then .ok none else (TypeRef.ofData format d).map some

/-- Reads one field of a generic argument. -/
def TypeArgument.readSlot (format : DataFormat) (slots : TypeArgument.Slots) (key : String)
    (d : Data) : Except DataFault TypeArgument.Slots :=
  if key = "variance" then return { slots with variance := ← Variance.ofData format d }
  else if key = "type" then return { slots with type := ← TypeRef.ofDataOrNull format d }
  else .ok slots

/-- The fields of a generic argument are read one after another, as those of any record. -/
theorem TypeArgument.readSlots_eq_readFields (slots : TypeArgument.Slots) :
    TypeArgument.readSlots format slots fields
      = readFields (TypeArgument.readSlot format) slots fields := by
  induction fields generalizing slots with
  | nil => rfl
  | cons field rest ih =>
    simp only [TypeArgument.readSlots, ih, readFields, TypeArgument.readSlot, TypeRef.ofDataOrNull]
    split_ifs
    all_goals simp only [bind_assoc, pure_bind, ok_bind]

theorem TypeArgument.ofData_record_eq_ok_iff {v : TypeArgument} :
    TypeArgument.ofData format (.record fields) = .ok v
      ↔ readFields (TypeArgument.readSlot format) {} fields = .ok ⟨v.variance, v.type⟩ := by
  rw [TypeArgument.ofData, TypeArgument.readSlots_eq_readFields]
  refine bind_eq_ok_iff_of_unique fun slots => ?_
  obtain ⟨variance, type⟩ := slots
  obtain ⟨⟩ := v
  simp [pure, Except.pure]

theorem TypeArgument.ofData_list (h : items.length ≤ 2) :
    TypeArgument.ofData format (.list items) = do
      let variance ← itemOr .invariant items 0 (Variance.ofData format)
      let type ← itemOr none items 1 (TypeRef.ofDataOrNull format)
      return ⟨variance, type⟩ := by
  rw [TypeArgument.ofData, checkLength_of_le h]
  rcases items with _ | ⟨first, _ | ⟨second, rest⟩⟩
  · rfl
  · rfl
  · simp only [itemOr, List.getElem?_cons_succ, List.getElem?_cons_zero, TypeRef.ofDataOrNull]
    cases second.isNull <;> rfl

theorem TypeArgument.ofData_list_eq_ok_iff (h : items.length ≤ 2) {v : TypeArgument} :
    TypeArgument.ofData format (.list items) = .ok v
      ↔ itemOr .invariant items 0 (Variance.ofData format) = .ok v.variance
        ∧ itemOr none items 1 (TypeRef.ofDataOrNull format) = .ok v.type := by
  rw [TypeArgument.ofData_list h]
  obtain ⟨⟩ := v
  simp only [bind_eq_ok_iff, pure_eq_ok_iff, Projection.mk.injEq]
  grind

/-! ## Annotations -/

theorem Annotation.ofData_record_eq_ok_iff {v : Annotation} :
    Annotation.ofData format (.record fields) = .ok v
      ↔ readFields Annotation.readSlot {} fields = .ok ⟨some v.name, v.arguments⟩ := by
  unfold Annotation.ofData
  rw [toShape]
  refine bind_eq_ok_iff_of_unique fun slots => ?_
  obtain ⟨name, arguments⟩ := slots
  obtain ⟨⟩ := v
  simp only [bind_eq_ok_iff, required_eq_ok_iff, pure_eq_ok_iff, Annotation.mk.injEq]
  grind

theorem Annotation.ofData_list_eq_ok_iff (h : items.length ≤ 2) {v : Annotation} :
    Annotation.ofData format (.list items) = .ok v
      ↔ itemAt "Annotation" 2 items 0 toText = .ok v.name
        ∧ itemOr .empty items 1 Annotation.argumentsOfData = .ok v.arguments := by
  unfold Annotation.ofData
  rw [toShape_list h]
  obtain ⟨⟩ := v
  simp only [bind_eq_ok_iff, pure_eq_ok_iff, Annotation.mk.injEq]
  grind

/-! ## Declarations -/

theorem Property.ofData_record_eq_ok_iff {v : Property} :
    Property.ofData format (.record fields) = .ok v
      ↔ readFields (Property.readSlot format) {} fields
          = .ok ⟨some v.name, some v.type, v.valid⟩ := by
  rw [Property.ofData, toShape]
  refine bind_eq_ok_iff_of_unique fun slots => ?_
  obtain ⟨name, type, valid⟩ := slots
  obtain ⟨⟩ := v
  simp only [bind_eq_ok_iff, required_eq_ok_iff, pure_eq_ok_iff, Property.mk.injEq]
  grind

theorem Property.ofData_list_eq_ok_iff (h : items.length ≤ 3) {v : Property} :
    Property.ofData format (.list items) = .ok v
      ↔ itemAt "Property" 3 items 0 toText = .ok v.name
        ∧ itemAt "Property" 3 items 1 (TypeRef.ofData format) = .ok v.type
        ∧ itemOr true items 2 toBoolean = .ok v.valid := by
  rw [Property.ofData, toShape_list h]
  obtain ⟨⟩ := v
  simp only [bind_eq_ok_iff, pure_eq_ok_iff, Property.mk.injEq]
  grind

theorem Declaration.ofData_record_eq_ok_iff {v : Declaration} :
    Declaration.ofData format (.record fields) = .ok v
      ↔ readFields (Declaration.readSlot format) {} fields
          = .ok ⟨some v.name, some v.kind, v.annotations, v.properties, v.valid⟩ := by
  rw [Declaration.ofData, toShape]
  refine bind_eq_ok_iff_of_unique fun slots => ?_
  obtain ⟨name, kind, annotations, properties, valid⟩ := slots
  obtain ⟨⟩ := v
  simp only [bind_eq_ok_iff, required_eq_ok_iff, pure_eq_ok_iff, Declaration.mk.injEq]
  grind

theorem Declaration.ofData_list_eq_ok_iff (h : items.length ≤ 5) {v : Declaration} :
    Declaration.ofData format (.list items) = .ok v
      ↔ itemAt "Declaration" 5 items 0 toText = .ok v.name
        ∧ itemAt "Declaration" 5 items 1 (DeclarationKind.ofData format) = .ok v.kind
        ∧ itemOr [] items 2 (toListOf fun a => Annotation.ofData format a) = .ok v.annotations
        ∧ itemOr [] items 3 (toListOf (Property.ofData format)) = .ok v.properties
        ∧ itemOr true items 4 toBoolean = .ok v.valid := by
  rw [Declaration.ofData, toShape_list h]
  obtain ⟨⟩ := v
  simp only [bind_eq_ok_iff, pure_eq_ok_iff, Declaration.mk.injEq]
  grind

end Stubsmith
