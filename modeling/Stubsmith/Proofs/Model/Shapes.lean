import Mathlib.Data.List.Basic
import Mathlib.Data.List.Pairwise
import Stubsmith.Proofs.Model.Forms

/-!
# Shapes and their parts

The five structured values in a declaration are shapes with parts. A part has a name, under which it
stands in the record form of the shape, a position, at which it stands in the list form, and perhaps
a default. In both forms what a shape is read as depends on nothing but its parts
(`Shape.read?_eq_some_iff`).
-/

namespace Stubsmith

open Data

/-! ## What trees are read as -/

/-- The structured values in a declaration. -/
inductive Shape where
  | declaration
  | annotationShape
  | property
  | typeRef
  | typeArgument

/-- What a tree in a declaration is read as. -/
inductive Target where
  | shape (s : Shape)
  | text
  | optionalText
  | boolean
  | kind
  | variance
  /-- The arguments of an annotation. They are no shape: any key can be one of an argument. -/
  | arguments
  /-- Nothing if the tree is null. -/
  | optional (t : Target)
  | listOf (t : Target)

/-- The values that a shape is read as. -/
def Shape.Value : Shape → Type
  | declaration => Declaration
  | annotationShape => Annotation
  | property => Property
  | typeRef => TypeRef
  | typeArgument => TypeArgument

/-- The values that a tree is read as. -/
def Target.Value : Target → Type
  | shape s => s.Value
  | text => String
  | optionalText => Option String
  | boolean => Bool
  | kind => DeclarationKind
  | variance => Variance
  | arguments => OrderedMap Constant
  | optional t => Option t.Value
  | listOf t => List t.Value

/-- Reads a shape from JSON data. -/
def Shape.read : (s : Shape) → Data → Except DataFault s.Value
  | declaration => Declaration.ofData .json
  | annotationShape => Annotation.ofData .json
  | property => Property.ofData .json
  | typeRef => TypeRef.ofData .json
  | typeArgument => TypeArgument.ofData .json

/-- Reads a tree from JSON data. -/
def Target.read : (t : Target) → Data → Except DataFault t.Value
  | shape s => s.read
  | text => toText
  | optionalText => toOptionalText
  | boolean => toBoolean
  | kind => DeclarationKind.ofData .json
  | variance => Variance.ofData .json
  | arguments => Annotation.argumentsOfData
  | optional t => fun d => if d.isNull then .ok none else (t.read d).map some
  | listOf t => toListOf t.read

/-- What a tree is read as, if it can be read. -/
def Target.read? (t : Target) (d : Data) : Option t.Value :=
  (t.read d).toOption

/-! ## Parts -/

/-- A part of a shape. If it has a default, it may be missing. -/
structure Part where
  name : String
  position : Nat
  target : Target
  default : Option Data := none

namespace Part

variable (p : Part)

/-- The tree of a part in a record or in a list. -/
def tree? : Data → Option Data
  | .record fields => fields.lookup p.name
  | .list items => items[p.position]?
  | _ => none

/-- The tree of a part, or its default. -/
def treeOr? (d : Data) : Option Data :=
  (p.tree? d).or p.default

/-- What a part is read as, from its tree or its default. -/
def read? (d : Data) : Option p.target.Value :=
  (p.treeOr? d).bind p.target.read?

end Part

/-- A part of a shape with the place where its value is held while the shape is being read. -/
structure Slot (σ : Type) where
  part : Part
  held : σ → Option part.target.Value
  fill : σ → part.target.Value → σ
  held_fill (x : σ) (v : part.target.Value) : held (fill x v) = some v := by intros; rfl

namespace Shape

/-- What is held of a shape while it is being read. -/
def Slots : Shape → Type
  | declaration => Declaration.Slots
  | annotationShape => Annotation.Slots
  | property => Property.Slots
  | typeRef => TypeRef.Slots
  | typeArgument => TypeArgument.Slots

/-- The slots of a shape, in the order of its parts. -/
def slots : (s : Shape) → List (Slot s.Slots)
  | declaration =>
    [{ part := { name := "name", position := 0, target := .text }
       held := fun x : Declaration.Slots => x.name
       fill := fun x a => { x with name := some a } },
     { part := { name := "kind", position := 1, target := .kind }
       held := fun x : Declaration.Slots => x.kind
       fill := fun x a => { x with kind := some a } },
     { part := { name := "annotations", position := 2, target := .listOf (.shape .annotationShape),
                 default := some (.list []) }
       held := fun x : Declaration.Slots => some x.annotations
       fill := fun x a => { x with annotations := a } },
     { part := { name := "properties", position := 3, target := .listOf (.shape .property),
                 default := some (.list []) }
       held := fun x : Declaration.Slots => some x.properties
       fill := fun x a => { x with properties := a } },
     { part := { name := "valid", position := 4, target := .boolean,
                 default := some (.boolean true) }
       held := fun x : Declaration.Slots => some x.valid
       fill := fun x a => { x with valid := a } }]
  | annotationShape =>
    [{ part := { name := "name", position := 0, target := .text }
       held := fun x : Annotation.Slots => x.name
       fill := fun x a => { x with name := some a } },
     { part := { name := "arguments", position := 1, target := .arguments,
                 default := some (.record []) }
       held := fun x : Annotation.Slots => some x.arguments
       fill := fun x a => { x with arguments := a } }]
  | property =>
    [{ part := { name := "name", position := 0, target := .text }
       held := fun x : Property.Slots => x.name
       fill := fun x a => { x with name := some a } },
     { part := { name := "type", position := 1, target := .shape .typeRef }
       held := fun x : Property.Slots => x.type
       fill := fun x a => { x with type := some a } },
     { part := { name := "valid", position := 2, target := .boolean,
                 default := some (.boolean true) }
       held := fun x : Property.Slots => some x.valid
       fill := fun x a => { x with valid := a } }]
  | typeRef =>
    [{ part := { name := "name", position := 0, target := .optionalText, default := some .null }
       held := fun x : TypeRef.Slots => some x.name
       fill := fun x a => { x with name := a } },
     { part := { name := "nullable", position := 1, target := .boolean,
                 default := some (.boolean false) }
       held := fun x : TypeRef.Slots => some x.nullable
       fill := fun x a => { x with nullable := a } },
     { part := { name := "arguments", position := 2, target := .listOf (.shape .typeArgument),
                 default := some (.list []) }
       held := fun x : TypeRef.Slots => some x.arguments
       fill := fun x a => { x with arguments := a } }]
  | typeArgument =>
    [{ part := { name := "variance", position := 0, target := .variance,
                 default := some (.text "invariant") }
       held := fun x : TypeArgument.Slots => some x.variance
       fill := fun x a => { x with variance := a } },
     { part := { name := "type", position := 1, target := .optional (.shape .typeRef),
                 default := some .null }
       held := fun x : TypeArgument.Slots => some x.type
       fill := fun x a => { x with type := a } }]

/-- The parts of a shape, in the order of the list form. -/
def parts (s : Shape) : List Part :=
  s.slots.map (·.part)

/-- A tree in one of the two forms of a shape: a record without repeated keys, or a list with at
most as many items as the shape has parts. -/
inductive IsForm (s : Shape) : Data → Prop
  | record {fields : List (String × Data)} (h : (fields.map Prod.fst).Nodup) :
      IsForm s (.record fields)
  | list {items : List Data} (h : items.length ≤ s.parts.length) : IsForm s (.list items)

/-- What is held before anything has been read. -/
def blank : (s : Shape) → s.Slots
  | declaration => ({} : Declaration.Slots)
  | annotationShape => ({} : Annotation.Slots)
  | property => ({} : Property.Slots)
  | typeRef => ({} : TypeRef.Slots)
  | typeArgument => ({} : TypeArgument.Slots)

/-- What is held when all parts of a value have been read. -/
def full : (s : Shape) → s.Value → s.Slots
  | declaration, (v : Declaration) =>
    (⟨some v.name, some v.kind, v.annotations, v.properties, v.valid⟩ : Declaration.Slots)
  | annotationShape, (v : Annotation) => (⟨some v.name, v.arguments⟩ : Annotation.Slots)
  | property, (v : Property) => (⟨some v.name, some v.type, v.valid⟩ : Property.Slots)
  | typeRef, (v : TypeRef) => (⟨v.name, v.nullable, v.arguments⟩ : TypeRef.Slots)
  | typeArgument, (v : TypeArgument) => (⟨v.variance, v.type⟩ : TypeArgument.Slots)

end Shape

/-! ## Items of the list form -/

namespace Part

variable {items : List Data} {name : String} {position : Nat} {t : Target} {a : t.Value}

theorem itemAt_eq_ok_iff {shape : String} {size : Nat} :
    itemAt shape size items position t.read = .ok a
      ↔ read? ⟨name, position, t, none⟩ (.list items) = some a := by
  rw [itemAt, read?, treeOr?, tree?]
  cases items[position]? with
  | none => simp
  | some d => exact toOption_eq_some_iff.symm

theorem itemOr_eq_ok_iff {tree : Data} {default : t.Value} (h : t.read tree = .ok default) :
    itemOr default items position t.read = .ok a
      ↔ read? ⟨name, position, t, some tree⟩ (.list items) = some a := by
  rw [itemOr, read?, treeOr?, tree?]
  cases items[position]? with
  | none => simp [Target.read?, h, Except.toOption]
  | some d => exact toOption_eq_some_iff.symm

end Part

/-! ## Reading fields into slots -/

namespace Slot

variable {σ : Type}

/-- Two slots for parts of different names, neither of which is touched by filling the other. -/
structure Independent (a b : Slot σ) : Prop where
  name_ne : a.part.name ≠ b.part.name
  held_left : ∀ x v, a.held (b.fill x v) = a.held x
  held_right : ∀ x v, b.held (a.fill x v) = b.held x

instance : Std.Symm (@Independent σ) where
  symm _ _ h := ⟨h.name_ne.symm, h.held_right, h.held_left⟩

/-- The slots are independent of each other and are all there is in what is held. -/
structure Lawful (slots : List (Slot σ)) : Prop where
  independent : slots.Pairwise Independent
  ext : ∀ x y, (∀ slot ∈ slots, slot.held x = slot.held y) → x = y

theorem Lawful.independent_of_ne {slots : List (Slot σ)} (h : Lawful slots) {a b : Slot σ}
    (ha : a ∈ slots) (hb : b ∈ slots) (hne : a ≠ b) : Independent a b :=
  h.independent.forall ha hb hne

/-- Reads a field into the slot for its key. A field that no slot is for is passed over. -/
def readInto (slots : List (Slot σ)) (x : σ) (key : String) (d : Data) : Except DataFault σ :=
  match slots.find? (·.part.name == key) with
  | some slot => (slot.part.target.read d).map (slot.fill x)
  | none => .ok x

theorem readInto_cons (slot : Slot σ) (rest : List (Slot σ)) (x : σ) (key : String) (d : Data) :
    readInto (slot :: rest) x key d
      = if key = slot.part.name then (slot.part.target.read d).map (slot.fill x)
        else readInto rest x key d := by
  rw [readInto, List.find?_cons]
  by_cases h : key = slot.part.name
  · simp [h]
  · rw [beq_false_of_ne (Ne.symm h), if_neg h, readInto]

/-- What a slot holds after the fields have been read. -/
def after (slot : Slot σ) (x : σ) (fields : List (String × Data)) :
    Option slot.part.target.Value :=
  match fields.lookup slot.part.name with
  | some d => slot.part.target.read? d
  | none => slot.held x

theorem after_cons_self {slot : Slot σ} {x : σ} {d : Data} {rest : List (String × Data)} :
    slot.after x ((slot.part.name, d) :: rest) = slot.part.target.read? d := by
  rw [after, List.lookup_cons_self]

theorem after_cons_of_ne {slot : Slot σ} {x : σ} {key : String} {d : Data}
    {rest : List (String × Data)} (h : slot.part.name ≠ key) :
    slot.after x ((key, d) :: rest) = slot.after x rest := by
  rw [after, List.lookup_cons, beq_false_of_ne h, after]

theorem after_of_not_mem {slot : Slot σ} {x : σ} {fields : List (String × Data)}
    (h : slot.part.name ∉ fields.map Prod.fst) : slot.after x fields = slot.held x := by
  rw [after, lookup_eq_none_of_not_mem h]

theorem after_congr {slot : Slot σ} {x y : σ} (h : slot.held x = slot.held y)
    (fields : List (String × Data)) : slot.after x fields = slot.after y fields := by
  rw [after, after, h]

section

variable {slots : List (Slot σ)} {x y : σ} {fields : List (String × Data)}

/-- A field is read into the slot for its key, whatever fields with other keys come after it. -/
theorem after_of_readInto_eq_ok (hslots : Lawful slots) {key : String} {d : Data}
    (hkey : key ∉ fields.map Prod.fst) (h : readInto slots x key d = .ok y) :
    ∀ slot ∈ slots, slot.after y fields = slot.after x ((key, d) :: fields) := by
  intro slot hslot
  rw [readInto] at h
  cases hfind : slots.find? (·.part.name == key) with
  | none =>
    rw [hfind] at h
    cases h
    have hne : slot.part.name ≠ key := by simpa using List.find?_eq_none.mp hfind slot hslot
    rw [after_cons_of_ne hne]
  | some target =>
    obtain rfl : target.part.name = key := by simpa using List.find?_some hfind
    rw [hfind] at h
    obtain ⟨v, hread, rfl⟩ := map_eq_ok_iff.mp h
    by_cases heq : slot = target
    · subst heq
      rw [after_of_not_mem hkey, slot.held_fill, after_cons_self, Target.read?, hread]
      rfl
    · have hindependent :=
        hslots.independent_of_ne hslot (List.mem_of_find?_eq_some hfind) heq
      rw [after_cons_of_ne hindependent.name_ne, after_congr (hindependent.held_left x v)]

/-- A field that cannot be read has a slot. -/
theorem exists_after_eq_none {key : String} {d : Data} {fault : DataFault}
    (h : readInto slots x key d = .error fault) (rest : List (String × Data)) :
    ∃ slot ∈ slots, slot.after x ((key, d) :: rest) = none := by
  rw [readInto] at h
  cases hfind : slots.find? (·.part.name == key) with
  | none =>
    rw [hfind] at h
    cases h
  | some target =>
    obtain rfl : target.part.name = key := by simpa using List.find?_some hfind
    rw [hfind] at h
    refine ⟨target, List.mem_of_find?_eq_some hfind, ?_⟩
    rw [after_cons_self, Target.read?]
    cases hread : target.part.target.read d with
    | error fault => rfl
    | ok v =>
      simp only [hread] at h
      cases h

/-- Fields with distinct keys leave in every slot what its own field is read as, whatever their
order. By induction on the fields: what the slots are going to hold is the same after each one. -/
theorem readFields_readInto_eq_ok_iff (hslots : Lawful slots)
    (hy : ∀ slot ∈ slots, (slot.held y).isSome) (hfields : (fields.map Prod.fst).Nodup) :
    readFields (readInto slots) x fields = .ok y
      ↔ ∀ slot ∈ slots, slot.after x fields = slot.held y := by
  induction fields generalizing x with
  | nil =>
    constructor
    · rintro ⟨⟩ slot -
      rfl
    · exact fun h => congrArg Except.ok (hslots.ext x y h)
  | cons field rest ih =>
    obtain ⟨key, d⟩ := field
    obtain ⟨hkey, hrest⟩ := List.nodup_cons.mp hfields
    rw [readFields]
    cases hstep : readInto slots x key d with
    | error fault =>
      obtain ⟨slot, hslot, hnone⟩ := exists_after_eq_none hstep rest
      refine iff_of_false (by rintro ⟨⟩) fun h => ?_
      have hheld := hy slot hslot
      rw [← h slot hslot, hnone] at hheld
      cases hheld
    | ok next =>
      rw [ok_bind, ih hrest]
      exact forall₂_congr fun slot hslot => by
        rw [after_of_readInto_eq_ok hslots hkey hstep slot hslot]

end

end Slot

/-! ## The slots of the shapes -/

namespace Shape

/-- Each slot is a field of the structure that holds what has been read, with a name of its own. -/
theorem lawful_slots (s : Shape) : Slot.Lawful s.slots where
  independent := by
    cases s
    all_goals
      simp only [slots, List.pairwise_cons, List.forall_mem_cons]
      repeat' apply And.intro
    all_goals first | exact ⟨by decide, fun _ _ => rfl, fun _ _ => rfl⟩ | simp
  ext x y h := by
    cases s
    all_goals
      cases x; cases y
      simp only [slots, List.forall_mem_cons] at h
    case declaration => obtain ⟨⟨⟩, ⟨⟩, ⟨⟩, ⟨⟩, ⟨⟩, -⟩ := h; rfl
    case annotationShape => obtain ⟨⟨⟩, ⟨⟩, -⟩ := h; rfl
    case property => obtain ⟨⟨⟩, ⟨⟩, ⟨⟩, -⟩ := h; rfl
    case typeRef => obtain ⟨⟨⟩, ⟨⟩, ⟨⟩, -⟩ := h; rfl
    case typeArgument => obtain ⟨⟨⟩, ⟨⟩, -⟩ := h; rfl

/-- Every part of a value is held. -/
theorem isSome_held_full {s : Shape} (v : s.Value) :
    ∀ slot ∈ s.slots, (slot.held (s.full v)).isSome := by
  cases s
  all_goals
    simp only [slots, List.forall_mem_cons]
    repeat' apply And.intro
  all_goals first | rfl | exact List.forall_mem_nil _

/-- What is held before anything has been read are the defaults. -/
theorem held_blank {s : Shape} :
    ∀ slot ∈ s.slots, slot.held s.blank = slot.part.default.bind slot.part.target.read? := by
  cases s
  all_goals
    simp only [slots, List.forall_mem_cons]
    repeat' apply And.intro
  all_goals first | rfl | exact List.forall_mem_nil _

theorem after_blank {s : Shape} {slot : Slot s.Slots} (h : slot ∈ s.slots)
    (fields : List (String × Data)) :
    slot.after s.blank fields = slot.part.read? (.record fields) := by
  rw [Slot.after, Part.read?, Part.treeOr?, Part.tree?, held_blank slot h]
  cases fields.lookup slot.part.name <;> rfl

/-! ## The two forms -/

/-- Reads one field of a shape. -/
def readSlot : (s : Shape) → s.Slots → String → Data → Except DataFault s.Slots
  | declaration => Declaration.readSlot .json
  | annotationShape => Annotation.readSlot
  | property => Property.readSlot .json
  | typeRef => TypeRef.readSlot .json
  | typeArgument => TypeArgument.readSlot .json

theorem readInto_slots (s : Shape) : Slot.readInto s.slots = s.readSlot := by
  funext x key d
  cases s
  all_goals simp only [slots, Slot.readInto_cons, readSlot]
  case' declaration => unfold Declaration.readSlot
  case' annotationShape => unfold Annotation.readSlot
  case' property => unfold Property.readSlot
  case' typeRef => unfold TypeRef.readSlot
  case' typeArgument => unfold TypeArgument.readSlot
  all_goals
    split_ifs
    all_goals first | exact bind_pure_eq_map.symm | rfl

theorem read_record_eq_ok_iff {s : Shape} {fields : List (String × Data)} {v : s.Value} :
    s.read (.record fields) = .ok v
      ↔ readFields (Slot.readInto s.slots) s.blank fields = .ok (s.full v) := by
  rw [readInto_slots]
  cases s with
  | declaration => exact Declaration.ofData_record_eq_ok_iff
  | annotationShape => exact Annotation.ofData_record_eq_ok_iff
  | property => exact Property.ofData_record_eq_ok_iff
  | typeRef => exact TypeRef.ofData_record_eq_ok_iff
  | typeArgument => exact TypeArgument.ofData_record_eq_ok_iff

theorem read_list_eq_ok_iff {s : Shape} {items : List Data} (h : items.length ≤ s.parts.length)
    {v : s.Value} :
    s.read (.list items) = .ok v
      ↔ ∀ slot ∈ s.slots, slot.part.read? (.list items) = slot.held (s.full v) := by
  cases s
  all_goals
    simp only [slots, List.forall_mem_cons, List.not_mem_nil, false_imp_iff, implies_true, and_true]
  case declaration =>
    exact (Declaration.ofData_list_eq_ok_iff h).trans <|
      and_congr (Part.itemAt_eq_ok_iff (t := .text)) <|
      and_congr (Part.itemAt_eq_ok_iff (t := .kind)) <|
      and_congr (Part.itemOr_eq_ok_iff (t := .listOf (.shape .annotationShape)) rfl) <|
      and_congr (Part.itemOr_eq_ok_iff (t := .listOf (.shape .property)) rfl)
        (Part.itemOr_eq_ok_iff (t := .boolean) rfl)
  case annotationShape =>
    have hread : Annotation.ofData .json (.list items) = .ok v ↔ _ :=
      Annotation.ofData_list_eq_ok_iff h
    exact hread.trans <|
      and_congr (Part.itemAt_eq_ok_iff (t := .text)) (Part.itemOr_eq_ok_iff (t := .arguments) rfl)
  case property =>
    exact (Property.ofData_list_eq_ok_iff h).trans <|
      and_congr (Part.itemAt_eq_ok_iff (t := .text)) <|
      and_congr (Part.itemAt_eq_ok_iff (t := .shape .typeRef))
        (Part.itemOr_eq_ok_iff (t := .boolean) rfl)
  case typeRef =>
    exact (TypeRef.ofData_list_eq_ok_iff h).trans <|
      and_congr (Part.itemOr_eq_ok_iff (t := .optionalText) rfl) <|
      and_congr (Part.itemOr_eq_ok_iff (t := .boolean) rfl)
        (Part.itemOr_eq_ok_iff (t := .listOf (.shape .typeArgument)) rfl)
  case typeArgument =>
    exact (TypeArgument.ofData_list_eq_ok_iff h).trans <|
      and_congr (Part.itemOr_eq_ok_iff (t := .variance) rfl)
        (Part.itemOr_eq_ok_iff (t := .optional (.shape .typeRef)) rfl)

/-- What a shape is read as holds what its parts are read as, and nothing else. -/
theorem read?_eq_some_iff {s : Shape} {d : Data} (h : s.IsForm d) {v : s.Value} :
    (Target.shape s).read? d = some v
      ↔ ∀ slot ∈ s.slots, slot.part.read? d = slot.held (s.full v) := by
  refine toOption_eq_some_iff.trans ?_
  cases h with
  | record hfields =>
    refine read_record_eq_ok_iff.trans ?_
    rw [Slot.readFields_readInto_eq_ok_iff s.lawful_slots (isSome_held_full v) hfields]
    exact forall₂_congr fun slot hslot => by rw [after_blank hslot]
  | list hitems => exact read_list_eq_ok_iff hitems

/-- Trees in any of the two forms whose parts are read alike are read alike. -/
theorem read?_congr {s : Shape} {d d' : Data} (hd : s.IsForm d) (hd' : s.IsForm d')
    (h : ∀ p ∈ s.parts, p.read? d = p.read? d') :
    (Target.shape s).read? d = (Target.shape s).read? d' := by
  have hparts (v : s.Value) : (∀ slot ∈ s.slots, slot.part.read? d = slot.held (s.full v))
      ↔ ∀ slot ∈ s.slots, slot.part.read? d' = slot.held (s.full v) :=
    forall₂_congr fun slot hslot => by rw [h slot.part (List.mem_map_of_mem hslot)]
  exact Option.ext fun v =>
    (read?_eq_some_iff hd).trans ((hparts v).trans (read?_eq_some_iff hd').symm)

/-! ## Names and positions -/

theorem eq_of_name_eq {s : Shape} {p q : Part} (hp : p ∈ s.parts) (hq : q ∈ s.parts)
    (h : p.name = q.name) : p = q := by
  obtain ⟨a, ha, rfl⟩ := List.mem_map.mp hp
  obtain ⟨b, hb, rfl⟩ := List.mem_map.mp hq
  by_contra hne
  have hslot : a ≠ b := fun heq => hne (congrArg Slot.part heq)
  exact (s.lawful_slots.independent_of_ne ha hb hslot).name_ne h

/-- A part stands at its position. -/
theorem getElem?_parts {s : Shape} {p : Part} (h : p ∈ s.parts) :
    s.parts[p.position]? = some p := by
  cases s
  all_goals
    simp only [parts, slots, List.map_cons, List.map_nil, List.mem_cons, List.not_mem_nil,
      or_false] at h
    rcases h with rfl | rfl | rfl | rfl | rfl <;> rfl

theorem eq_of_position_eq {s : Shape} {p q : Part} (hp : p ∈ s.parts) (hq : q ∈ s.parts)
    (h : p.position = q.position) : p = q :=
  Option.some.inj ((getElem?_parts hp).symm.trans (h ▸ getElem?_parts hq))

theorem position_lt {s : Shape} {p : Part} (h : p ∈ s.parts) : p.position < s.parts.length :=
  (List.getElem?_eq_some_iff.mp (getElem?_parts h)).1

end Shape

end Stubsmith
