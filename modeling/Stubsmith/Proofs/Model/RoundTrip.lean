import Stubsmith.Model.Decode
import Stubsmith.Model.Encode
import Stubsmith.Proofs.Json.RoundTrip

/-!
# Reading the model back from what was written

What `toData` writes, `ofData` reads back: every part of a declaration and the configuration, in
JSON as in TOML, with types nested as deep as may be. What is left out in writing is what reading
puts in for a missing field, and no field is caught by the reader of another one. Floating-point
arguments are left aside: one that is not finite is written like null. So a tree belongs to one
value only, and since the trees are exact so does a JSON text
(`declaration_configuration_roundTrip`). The text itself is read back as long as it is not too deep
for `Json.parse?` (`Declaration.ofData_parse?_compact`).
-/

namespace Stubsmith

open Json (IsExact)

namespace Data

theorem ok_bind {ε α β : Type} (a : α) (f : α → Except ε β) :
    ((Except.ok a : Except ε α) >>= f) = f a := rfl

/-! ## Lists and fields -/

theorem readAll_map {α : Type} {read : Data → Except DataFault α} {write : α → Data}
    {l : List α} (h : ∀ a ∈ l, read (write a) = .ok a) :
    readAll read (l.map write) = .ok l := by
  induction l with
  | nil => rfl
  | cons a rest ih =>
      rw [List.map_cons, readAll, h a (List.mem_cons_self ..), ok_bind,
        ih fun b hb => h b (List.mem_cons_of_mem a hb)]
      rfl

section

variable {σ : Type} {read : σ → String → Data → Except DataFault σ} {slots next : σ}
  {key : String}

theorem readFields_cons {d : Data} (h : read slots key d = .ok next)
    (rest : List (String × Data)) :
    readFields read slots ((key, d) :: rest) = readFields read next rest := by
  rw [readFields, h, ok_bind]

/-- A list is read from its field, or from the lack of one if an empty list is what the slots hold
already. -/
theorem readFields_listField {items : List Data} (h : read slots key (.list items) = .ok next)
    (hempty : items = [] → slots = next) (rest : List (String × Data)) :
    readFields read slots (listField key items ++ rest) = readFields read next rest := by
  cases items with
  | nil => rw [hempty rfl]; rfl
  | cons d others => exact readFields_cons h rest

end

theorem keys_listField_sublist (name : String) (items : List Data) :
    ((listField name items).map Prod.fst).Sublist [name] := by
  cases items with
  | nil => exact List.nil_sublist _
  | cons d rest => exact List.Sublist.refl _

theorem isExact_listField {name : String} {items : List Data} (h : ∀ d ∈ items, IsExact d) :
    ∀ field ∈ listField name items, IsExact field.2 := by
  cases items with
  | nil => exact fun _ hmem => absurd hmem List.not_mem_nil
  | cons d rest =>
      intro field hfield
      obtain rfl := List.mem_singleton.mp hfield
      exact .list h

/-- A record is exact if its keys come in a fixed order, some of them perhaps missing. -/
theorem isExact_record {fields : List (String × Data)} (keys : List String) (hnodup : keys.Nodup)
    (hkeys : (fields.map Prod.fst).Sublist keys) (hfields : ∀ field ∈ fields, IsExact field.2) :
    IsExact (.record fields) :=
  .record (hnodup.sublist hkeys) hfields

end Data

open Data

section

variable (format : DataFormat)

/-! ## Types -/

theorem Variance.ofData_word (v : Variance) : Variance.ofData format (.text v.word) = .ok v := by
  cases v <;> rfl

theorem TypeRef.readSlots_name (name : String) (slots : TypeRef.Slots)
    (rest : List (String × Data)) :
    TypeRef.readSlots format slots (("name", .text name) :: rest)
      = TypeRef.readSlots format { slots with name := some name } rest := by
  rw [TypeRef.readSlots, if_pos rfl]
  rfl

theorem TypeRef.readSlots_nullable (nullable : Bool) (slots : TypeRef.Slots)
    (rest : List (String × Data)) :
    TypeRef.readSlots format slots (("nullable", .boolean nullable) :: rest)
      = TypeRef.readSlots format { slots with nullable } rest := by
  rw [TypeRef.readSlots, if_neg (by decide), if_pos rfl]
  rfl

theorem TypeRef.readSlots_arguments {items : List Data} {arguments : List TypeArgument}
    (h : TypeRef.readArguments format items = .ok arguments) (name : Option String)
    (nullable : Bool) :
    TypeRef.readSlots format { name, nullable } (listField "arguments" items)
      = .ok { name, nullable, arguments } := by
  cases items with
  | nil =>
      cases h
      rfl
  | cons d rest =>
      rw [listField, if_neg (by simp), TypeRef.readSlots, if_neg (by decide), if_neg (by decide),
        if_pos rfl, TypeRef.argumentsOfData, h]
      rfl

theorem TypeRef.isNull_toData (t : TypeRef) : t.toData.isNull = false := by
  obtain ⟨_ | name, nullable, arguments⟩ := t <;> rw [TypeRef.toData] <;> rfl

mutual

/-- A type reference is read back, by induction on the type: an argument without a type stays
different from an argument with an unresolved one, since only the latter has a field for it. -/
theorem TypeRef.ofData_toData (t : TypeRef) : TypeRef.ofData format t.toData = .ok t := by
  match t with
  | ⟨none, nullable, arguments⟩ =>
    have harguments := TypeRef.readArguments_toData arguments
    rw [TypeRef.toData, TypeRef.ofData, List.nil_append, List.singleton_append,
      TypeRef.readSlots_nullable, TypeRef.readSlots_arguments format harguments]
    rfl
  | ⟨some name, nullable, arguments⟩ =>
    have harguments := TypeRef.readArguments_toData arguments
    rw [TypeRef.toData, TypeRef.ofData, List.append_assoc, List.singleton_append,
      List.singleton_append, TypeRef.readSlots_name, TypeRef.readSlots_nullable,
      TypeRef.readSlots_arguments format harguments]
    rfl

theorem TypeRef.readArguments_toData (l : List (Projection TypeRef)) :
    TypeRef.readArguments format (TypeRef.argumentsToData l) = .ok l := by
  match l with
  | [] => rfl
  | a :: rest =>
    rw [TypeRef.argumentsToData, TypeRef.readArguments, TypeArgument.ofData_toData a, ok_bind,
      TypeRef.readArguments_toData rest]
    rfl

theorem TypeArgument.ofData_toData (a : Projection TypeRef) :
    TypeArgument.ofData format (TypeRef.argumentToData a) = .ok a := by
  match a with
  | ⟨variance, none⟩ =>
    rw [TypeRef.argumentToData, TypeArgument.ofData, TypeArgument.readSlots, if_pos rfl,
      Variance.ofData_word, ok_bind]
    rfl
  | ⟨variance, some t⟩ =>
    have ht := TypeRef.ofData_toData t
    rw [TypeRef.argumentToData, TypeArgument.ofData, TypeArgument.readSlots, if_pos rfl,
      Variance.ofData_word, ok_bind, TypeRef.typeField, TypeArgument.readSlots,
      if_neg (by decide), if_pos rfl, t.isNull_toData, if_neg (by decide), ht]
    rfl

end

/-! ## Annotations -/

/-- Whether the constant is a floating-point number. -/
def Constant.IsFloat : Constant → Prop
  | .float _ => True
  | _ => False

instance (value : Constant) : Decidable value.IsFloat :=
  match value with
  | .boolean _ => isFalse id
  | .integer _ => isFalse id
  | .float _ => isTrue trivial
  | .text _ => isFalse id

theorem Constant.ofData_toData {value : Constant} (h : ¬ value.IsFloat) :
    Constant.ofData value.toData = .ok value := by
  cases value with
  | boolean b => rfl
  | integer i => rw [toData, Constant.ofData, if_pos (Word.fitsSigned_toInt i), Int64.ofInt_toInt]
  | float x => exact absurd trivial h
  | text s => rfl

/-- Whether no argument is a floating-point number. -/
def Annotation.HasNoFloat (a : Annotation) : Prop :=
  ∀ entry ∈ a.arguments.entries, ¬ entry.2.IsFloat

instance (a : Annotation) : Decidable a.HasNoFloat :=
  inferInstanceAs (Decidable (∀ entry ∈ a.arguments.entries, ¬ entry.2.IsFloat))

theorem Annotation.readArguments_map {entries : List (String × Constant)}
    (h : ∀ entry ∈ entries, ¬ entry.2.IsFloat) :
    readArguments (entries.map fun (key, value) => (key, value.toData)) = .ok entries := by
  induction entries with
  | nil => rfl
  | cons entry rest ih =>
      obtain ⟨key, value⟩ := entry
      have hvalue := Constant.ofData_toData (h (key, value) (List.mem_cons_self ..))
      rw [List.map_cons, readArguments, hvalue, ok_bind,
        ih fun e he => h e (List.mem_cons_of_mem _ he)]
      rfl

/-- The arguments are read back with their keys in the order in which they were written. -/
theorem Annotation.readSlot_arguments {a : Annotation} (h : a.HasNoFloat) :
    readSlot { name := some a.name } "arguments"
        (.record (a.arguments.entries.map fun (key, value) => (key, value.toData)))
      = .ok { name := some a.name, arguments := a.arguments } := by
  have hlist : OrderedMap.ofList a.arguments.entries = a.arguments :=
    OrderedMap.ext (OrderedMap.entries_ofList a.arguments.nodup)
  rw [readSlot, if_neg (by decide), if_pos rfl, argumentsOfData, readArguments_map h, ok_bind,
    hlist]
  rfl

theorem Annotation.ofData_toData {a : Annotation} (h : a.HasNoFloat) :
    Annotation.ofData format a.toData = .ok a := by
  have hname : readSlot {} "name" (.text a.name) = .ok { name := some a.name } := rfl
  rw [toData, Annotation.ofData, toShape, readFields_cons hname]
  by_cases hempty : a.arguments.entries = []
  · obtain ⟨name, arguments⟩ := a
    obtain rfl : arguments = .empty := OrderedMap.ext hempty
    rfl
  · rw [if_neg (by simpa using hempty), readFields_cons (readSlot_arguments h)]
    rfl

/-! ## Declarations -/

theorem DeclarationKind.ofData_label (kind : DeclarationKind) :
    DeclarationKind.ofData format (.text kind.label) = .ok kind := by
  cases kind <;> rfl

theorem Property.ofData_toData (p : Property) : Property.ofData format p.toData = .ok p := by
  have hname : readSlot format {} "name" (.text p.name) = .ok { name := some p.name } := rfl
  have htype : readSlot format { name := some p.name } "type" p.type.toData
      = .ok { name := some p.name, type := some p.type } := by
    rw [readSlot, if_neg (by decide), if_pos rfl, p.type.ofData_toData]
    rfl
  rw [Property.ofData, toData, toShape, readFields_cons hname, readFields_cons htype,
    readFields_cons rfl]
  rfl

/-- Whether no argument of an annotation is a floating-point number. -/
def Declaration.HasNoFloat (d : Declaration) : Prop :=
  ∀ a ∈ d.annotations, a.HasNoFloat

instance (d : Declaration) : Decidable d.HasNoFloat :=
  inferInstanceAs (Decidable (∀ a ∈ d.annotations, a.HasNoFloat))

theorem Declaration.ofData_toData {d : Declaration} (h : d.HasNoFloat) :
    Declaration.ofData format d.toData = .ok d := by
  obtain ⟨name, kind, annotations, properties, valid⟩ := d
  have hname : readSlot format {} "name" (.text name) = .ok { name := some name } := rfl
  have hkind : readSlot format { name := some name } "kind" (.text kind.label)
      = .ok { name := some name, kind := some kind } := by
    rw [readSlot, if_neg (by decide), if_pos rfl, kind.ofData_label]
    rfl
  have hannotations : readSlot format { name := some name, kind := some kind } "annotations"
        (.list (annotations.map Annotation.toData))
      = .ok { name := some name, kind := some kind, annotations } := by
    rw [readSlot, if_neg (by decide), if_neg (by decide), if_pos rfl, toListOf,
      readAll_map fun a ha => Annotation.ofData_toData format (h a ha)]
    rfl
  have hproperties : readSlot format { name := some name, kind := some kind, annotations }
        "properties" (.list (properties.map Property.toData))
      = .ok { name := some name, kind := some kind, annotations, properties } := by
    rw [readSlot, if_neg (by decide), if_neg (by decide), if_neg (by decide), if_pos rfl, toListOf,
      readAll_map fun p _ => p.ofData_toData format]
    rfl
  rw [Declaration.ofData, toData, toShape, List.append_assoc, List.append_assoc, List.cons_append,
    readFields_cons hname, List.singleton_append, readFields_cons hkind,
    readFields_listField hannotations, readFields_listField hproperties, readFields_cons rfl]
  · rfl
  · intro hempty
    rw [List.map_eq_nil_iff.mp hempty]
  · intro hempty
    rw [List.map_eq_nil_iff.mp hempty]

/-! ## Configuration -/

theorem Configuration.ofData_toData (c : Configuration) :
    Configuration.ofData format c.toData = .ok c := by
  obtain ⟨marker, nameArgument, package, fileName, onGap⟩ := c
  cases onGap with
  | discard => rfl
  | keepPartial => rfl

end

/-! ## Exact trees -/

mutual

theorem TypeRef.isExact_toData (t : TypeRef) : IsExact t.toData := by
  match t with
  | ⟨none, nullable, arguments⟩ =>
    have harguments := TypeRef.isExact_argumentsToData arguments
    rw [TypeRef.toData]
    refine isExact_record ["nullable", "arguments"] (by decide) ?_ ?_
    · rw [List.nil_append, List.map_append]
      exact (List.Sublist.refl _).append (keys_listField_sublist _ _)
    · simp only [List.nil_append, List.forall_mem_append, List.forall_mem_singleton]
      exact ⟨.boolean nullable, isExact_listField harguments⟩
  | ⟨some name, nullable, arguments⟩ =>
    have harguments := TypeRef.isExact_argumentsToData arguments
    rw [TypeRef.toData]
    refine isExact_record ["name", "nullable", "arguments"] (by decide) ?_ ?_
    · rw [List.map_append]
      exact (List.Sublist.refl ["name", "nullable"]).append (keys_listField_sublist _ _)
    · simp only [List.forall_mem_append, List.forall_mem_singleton]
      exact ⟨⟨.text name, .boolean nullable⟩, isExact_listField harguments⟩

theorem TypeRef.isExact_argumentsToData (l : List (Projection TypeRef)) :
    ∀ d ∈ TypeRef.argumentsToData l, IsExact d := by
  match l with
  | [] =>
    rw [TypeRef.argumentsToData]
    exact fun _ hmem => absurd hmem List.not_mem_nil
  | a :: rest =>
    rw [TypeRef.argumentsToData, List.forall_mem_cons]
    exact ⟨TypeRef.isExact_argumentToData a, TypeRef.isExact_argumentsToData rest⟩

theorem TypeRef.isExact_argumentToData (a : Projection TypeRef) :
    IsExact (TypeRef.argumentToData a) := by
  match a with
  | ⟨variance, none⟩ =>
    rw [TypeRef.argumentToData]
    refine isExact_record ["variance"] (by decide) (List.Sublist.refl _) ?_
    rw [TypeRef.typeField, List.forall_mem_singleton]
    exact .text _
  | ⟨variance, some t⟩ =>
    have ht := TypeRef.isExact_toData t
    rw [TypeRef.argumentToData]
    refine isExact_record ["variance", "type"] (by decide) (List.Sublist.refl _) ?_
    rw [TypeRef.typeField, List.forall_mem_cons, List.forall_mem_singleton]
    exact ⟨.text _, ht⟩

end

theorem Constant.isExact_toData {value : Constant} (h : ¬ value.IsFloat) :
    IsExact value.toData := by
  cases value with
  | boolean b => exact .boolean b
  | integer i => exact .integer (Or.inl (Word.fitsSigned_toInt i))
  | float x => exact absurd trivial h
  | text s => exact .text s

theorem Annotation.isExact_toData {a : Annotation} (h : a.HasNoFloat) : IsExact a.toData := by
  have harguments :
      IsExact (.record (a.arguments.entries.map fun (key, value) => (key, value.toData))) := by
    refine .record ?_ ?_
    · rw [List.map_map]
      exact a.arguments.nodup
    · rw [List.forall_mem_map]
      exact fun entry hentry => Constant.isExact_toData (h entry hentry)
  rw [toData]
  by_cases hempty : a.arguments.entries = []
  · rw [if_pos (by simpa using hempty)]
    refine isExact_record ["name"] (by decide) (List.Sublist.refl _) ?_
    rw [List.forall_mem_singleton]
    exact .text _
  · rw [if_neg (by simpa using hempty)]
    refine isExact_record ["name", "arguments"] (by decide) (List.Sublist.refl _) ?_
    rw [List.forall_mem_cons, List.forall_mem_singleton]
    exact ⟨.text _, harguments⟩

theorem Property.isExact_toData (p : Property) : IsExact p.toData := by
  refine isExact_record ["name", "type", "valid"] (by decide) (List.Sublist.refl _) ?_
  rw [List.forall_mem_cons, List.forall_mem_cons, List.forall_mem_singleton]
  exact ⟨.text _, p.type.isExact_toData, .boolean _⟩

theorem Declaration.isExact_toData {d : Declaration} (h : d.HasNoFloat) : IsExact d.toData := by
  have hannotations : ∀ tree ∈ d.annotations.map Annotation.toData, IsExact tree := by
    rw [List.forall_mem_map]
    exact fun a ha => Annotation.isExact_toData (h a ha)
  have hproperties : ∀ tree ∈ d.properties.map Property.toData, IsExact tree := by
    rw [List.forall_mem_map]
    exact fun p _ => p.isExact_toData
  refine isExact_record ["name", "kind", "annotations", "properties", "valid"] (by decide) ?_ ?_
  · simp only [List.map_append]
    exact (((List.Sublist.refl ["name", "kind"]).append (keys_listField_sublist _ _)).append
      (keys_listField_sublist _ _)).append (List.Sublist.refl ["valid"])
  · simp only [List.forall_mem_append, List.forall_mem_cons]
    exact ⟨⟨⟨⟨.text _, .text _, nofun⟩, isExact_listField hannotations⟩,
      isExact_listField hproperties⟩, .boolean _, nofun⟩

theorem Configuration.isExact_toData (c : Configuration) : IsExact c.toData := by
  refine isExact_record Configuration.fieldNames (by decide) (List.Sublist.refl _) ?_
  simp only [List.forall_mem_cons]
  exact ⟨.text _, .text _, .text _, .text _, .text _, nofun⟩

/-! ## Texts and trees -/

/-- A declaration is read back from its JSON text unless its types are nested too deep for texts. -/
theorem Declaration.ofData_parse?_compact {d : Declaration} (h : d.HasNoFloat)
    (hdepth : Json.depth d.toData ≤ Json.maxDepth) :
    (Json.parse? (Json.compact d.toData)).map (Declaration.ofData .json) = some (.ok d) := by
  rw [Json.parse?_compact (Declaration.isExact_toData h), if_pos hdepth, Option.map_some,
    Declaration.ofData_toData .json h]

/-- A configuration is always read back from its JSON text. -/
theorem Configuration.ofData_parse?_compact (c : Configuration) :
    (Json.parse? (Json.compact c.toData)).map (Configuration.ofData .json) = some (.ok c) := by
  have hdepth : Json.depth c.toData ≤ Json.maxDepth := by
    simp [toData, Json.depth, Json.fieldsDepth, Json.maxDepth]
  rw [Json.parse?_compact c.isExact_toData, if_pos hdepth, Option.map_some,
    Configuration.ofData_toData]

/-- Different values that are read back from their trees have different trees, and so different
texts if the trees are exact. -/
theorem toData_ne_and_compact_ne {α : Type} {write : α → Data} {read : Data → Except DataFault α}
    {a b : α} (ha : read (write a) = .ok a) (hb : read (write b) = .ok b)
    (hexact : IsExact (write a)) (hexact' : IsExact (write b)) (hne : a ≠ b) :
    write a ≠ write b ∧ Json.compact (write a) ≠ Json.compact (write b) := by
  have htree : write a ≠ write b := by
    intro heq
    rw [heq, hb] at ha
    exact hne (Except.ok.inj ha).symm
  exact ⟨htree, fun htext => htree (hexact.eq_of_compact_eq hexact' htext)⟩

/-- **Declarations and configurations are read back exactly as they were** from their trees of data,
however deep their types are nested, as long as no argument is a floating-point number. So different
ones have different trees, and different JSON texts. -/
theorem declaration_configuration_roundTrip :
    (∀ d : Declaration, d.HasNoFloat → ∀ format, Declaration.ofData format d.toData = .ok d) ∧
    (∀ c : Configuration, ∀ format, Configuration.ofData format c.toData = .ok c) ∧
    (∀ d d' : Declaration, d.HasNoFloat → d'.HasNoFloat → d ≠ d' →
      d.toData ≠ d'.toData ∧ Json.compact d.toData ≠ Json.compact d'.toData) ∧
    (∀ c c' : Configuration, c ≠ c' →
      c.toData ≠ c'.toData ∧ Json.compact c.toData ≠ Json.compact c'.toData) := by
  refine ⟨fun d hd format => ?_, fun c format => ?_, ?_, ?_⟩
  · exact Declaration.ofData_toData format hd
  · exact c.ofData_toData format
  · intro d d' hd hd' hne
    exact toData_ne_and_compact_ne (Declaration.ofData_toData .json hd)
      (Declaration.ofData_toData .json hd') (Declaration.isExact_toData hd)
      (Declaration.isExact_toData hd') hne
  · intro c c' hne
    exact toData_ne_and_compact_ne (c.ofData_toData .json) (c'.ofData_toData .json)
      c.isExact_toData c'.isExact_toData hne

/-- A declaration that is not valid, with arguments out of alphabetical order and a property that is
not valid either, whose type has the generic argument in it. -/
def holder (argument : TypeArgument) : Declaration where
  name := "org.example.Holder"
  kind := .enumEntry
  annotations :=
    [{ name := "org.example.Function",
       arguments := .ofList [("z", .integer (-1)), ("a", .boolean false), ("m", .text "\"1\"")] }]
  properties :=
    [{ name := "held", type := { name := some "Map", arguments := [argument, TypeArgument.star] },
       valid := false }]
  valid := false

/-- A type with as many lists around it. -/
def listsOf : Nat → TypeRef
  | 0 => .named "Int"
  | n + 1 => { name := some "List", arguments := [TypeArgument.covariant (listsOf n)] }

/-- A missing argument type and an unresolved one are kept apart, and a type may be nested deeper
than a text could be. -/
theorem holder_roundTrip :
    (holder { variance := .covariant }).HasNoFloat ∧
    (holder (.covariant .unresolved)).HasNoFloat ∧
    (holder (.covariant (listsOf 60))).HasNoFloat ∧
    Declaration.ofData .json (holder { variance := .covariant }).toData
      = .ok (holder { variance := .covariant }) ∧
    Declaration.ofData .json (holder (.covariant .unresolved)).toData
      = .ok (holder (.covariant .unresolved)) ∧
    Declaration.ofData .json (holder (.covariant (listsOf 60))).toData
      = .ok (holder (.covariant (listsOf 60))) ∧
    Json.compact (holder { variance := .covariant }).toData
      ≠ Json.compact (holder (.covariant .unresolved)).toData := by
  have hmissing : (holder { variance := .covariant }).HasNoFloat := by decide +kernel
  have hunresolved : (holder (.covariant .unresolved)).HasNoFloat := by decide +kernel
  have hdeep : (holder (.covariant (listsOf 60))).HasNoFloat := by decide +kernel
  have hne : holder { variance := .covariant } ≠ holder (.covariant .unresolved) := by
    simp [holder, TypeArgument.covariant]
  obtain ⟨hdeclaration, _, hdistinct, _⟩ := declaration_configuration_roundTrip
  exact ⟨hmissing, hunresolved, hdeep, hdeclaration _ hmissing .json,
    hdeclaration _ hunresolved .json, hdeclaration _ hdeep .json,
    (hdistinct _ _ hmissing hunresolved hne).2⟩

end Stubsmith
