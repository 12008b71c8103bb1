import Mathlib.Logic.Relation
import Stubsmith.Proofs.Model.Shapes

/-!
# Spellings of a declaration

The same declaration can be written as JSON data in many ways: with its fields in any order, with
further fields that no shape knows, with or without the defaults, with lists in place of records,
with either of two words for a variance, and with words that stand as the key of a record. All of
them are read as the same declaration, at whatever depth they differ
(`Declaration.ofData_eq_ok_iff_of_respelled`).
-/

namespace Stubsmith

open Data

/-- The variances that have two words, under both of them. -/
def Variance.synonyms : List (String × String) :=
  [("out", "covariant"), ("in", "contravariant"), ("star", "*")]

/-- One change of spelling in a tree that is read as `t`. The keys of the records that are changed,
or changed in, do not repeat: they are objects of JSON. Nothing is changed in the arguments of an
annotation. -/
inductive Respelling : Target → Data → Data → Prop
  /-- The fields of a shape come in another order. -/
  | order {s : Shape} {fields fields' : List (String × Data)} (hperm : fields.Perm fields')
      (hkeys : (fields.map Prod.fst).Nodup) :
      Respelling (.shape s) (.record fields) (.record fields')
  /-- A field is added that the shape does not know. -/
  | unknown {s : Shape} (before after : List (String × Data)) {key : String} {d : Data}
      (hkey : key ∉ s.parts.map Part.name)
      (hkeys : ((before ++ (key, d) :: after).map Prod.fst).Nodup) :
      Respelling (.shape s) (.record (before ++ after)) (.record (before ++ (key, d) :: after))
  /-- A missing field is written out with its default. -/
  | default {s : Shape} (before after : List (String × Data)) {p : Part} {tree : Data}
      (hp : p ∈ s.parts) (hdefault : p.default = some tree)
      (hkeys : ((before ++ (p.name, tree) :: after).map Prod.fst).Nodup) :
      Respelling (.shape s) (.record (before ++ after))
        (.record (before ++ (p.name, tree) :: after))
  /-- A record becomes the list of all its fields, missing ones with their defaults. -/
  | positions {s : Shape} {fields : List (String × Data)} {items : List Data}
      (hkeys : (fields.map Prod.fst).Nodup)
      (hitems : items.map some = s.parts.map (·.treeOr? (.record fields))) :
      Respelling (.shape s) (.record fields) (.list items)
  /-- The last item is left out if it is the default. -/
  | cut {s : Shape} (items : List Data) {p : Part} {tree : Data} (hp : p ∈ s.parts)
      (hposition : p.position = items.length) (hdefault : p.default = some tree) :
      Respelling (.shape s) (.list (items ++ [tree])) (.list items)
  /-- A variance gets its other word. -/
  | synonym {word other : String} (h : (word, other) ∈ Variance.synonyms) :
      Respelling .variance (.text word) (.text other)
  /-- The word of a choice becomes the key of a record. -/
  | keyed {t : Target} {word : String} (ht : t = .kind ∨ t = .variance) :
      Respelling t (.text word) (.record [(word, .null)])
  /-- The value of a known field is changed. -/
  | field {s : Shape} (before after : List (String × Data)) {p : Part} {d d' : Data}
      (hp : p ∈ s.parts) (hkeys : ((before ++ (p.name, d) :: after).map Prod.fst).Nodup)
      (h : Respelling p.target d d') :
      Respelling (.shape s) (.record (before ++ (p.name, d) :: after))
        (.record (before ++ (p.name, d') :: after))
  /-- An item of the list form is changed. -/
  | item {s : Shape} (before after : List Data) {p : Part} {d d' : Data} (hp : p ∈ s.parts)
      (hposition : p.position = before.length)
      (hlength : (before ++ d :: after).length ≤ s.parts.length) (h : Respelling p.target d d') :
      Respelling (.shape s) (.list (before ++ d :: after)) (.list (before ++ d' :: after))
  /-- One of several values is changed. -/
  | element {t : Target} (before after : List Data) {d d' : Data} (h : Respelling t d d') :
      Respelling (.listOf t) (.list (before ++ d :: after)) (.list (before ++ d' :: after))
  /-- A value that might be missing is changed. -/
  | present {t : Target} {d d' : Data} (h : Respelling t d d') : Respelling (.optional t) d d'

/-! ## Fields and items -/

section

variable {fields fields' before after : List (String × Data)} {key : String} {d : Data}

theorem lookup_perm (h : fields.Perm fields') (hkeys : (fields.map Prod.fst).Nodup) :
    fields.lookup key = fields'.lookup key := by
  have hkeys' : (fields'.map Prod.fst).Nodup := (h.map Prod.fst).nodup hkeys
  apply Option.ext
  intro d
  rw [OrderedMap.lookup_eq_some_iff_mem hkeys, OrderedMap.lookup_eq_some_iff_mem hkeys',
    h.mem_iff]

theorem nodup_keys_insert_iff :
    ((before ++ (key, d) :: after).map Prod.fst).Nodup
      ↔ key ∉ (before ++ after).map Prod.fst ∧ ((before ++ after).map Prod.fst).Nodup :=
  (List.perm_middle.map Prod.fst).nodup_iff.trans List.nodup_cons

end

namespace Part

variable {p : Part}

theorem read?_of_treeOr? {d tree : Data} (h : p.treeOr? d = some tree) :
    p.read? d = p.target.read? tree := by
  rw [read?, h]
  rfl

theorem read?_congr {d d' : Data} (h : p.treeOr? d = p.treeOr? d') : p.read? d = p.read? d' := by
  rw [read?, read?, h]

section

variable {fields fields' before after : List (String × Data)} {key : String} {d : Data}

theorem treeOr?_perm (h : fields.Perm fields') (hkeys : (fields.map Prod.fst).Nodup) :
    p.treeOr? (.record fields) = p.treeOr? (.record fields') := by
  rw [treeOr?, treeOr?, tree?, tree?, lookup_perm h hkeys]

theorem treeOr?_insert_of_ne (h : p.name ≠ key) :
    p.treeOr? (.record (before ++ (key, d) :: after)) = p.treeOr? (.record (before ++ after)) := by
  rw [treeOr?, treeOr?, tree?, tree?, List.lookup_append, List.lookup_append, List.lookup_cons,
    beq_false_of_ne h]

theorem treeOr?_insert_self
    (hkeys : ((before ++ (p.name, d) :: after).map Prod.fst).Nodup) :
    p.treeOr? (.record (before ++ (p.name, d) :: after)) = some d := by
  have hmem : (p.name, d) ∈ before ++ (p.name, d) :: after := by simp
  rw [treeOr?, tree?, (OrderedMap.lookup_eq_some_iff_mem hkeys).mpr hmem]
  rfl

theorem treeOr?_of_missing (h : p.name ∉ fields.map Prod.fst) :
    p.treeOr? (.record fields) = p.default := by
  rw [treeOr?, tree?, lookup_eq_none_of_not_mem h]
  rfl

end

section

variable {items before after : List Data} {d d' : Data}

theorem treeOr?_of_getElem? {tree : Data} (h : items[p.position]? = some tree) :
    p.treeOr? (.list items) = some tree := by
  rw [treeOr?, tree?, h]
  rfl

theorem treeOr?_of_cut (h : p.position = items.length) : p.treeOr? (.list items) = p.default := by
  rw [treeOr?, tree?, h, List.getElem?_eq_none (Nat.le_refl _)]
  rfl

theorem treeOr?_item_self (h : p.position = before.length) :
    p.treeOr? (.list (before ++ d :: after)) = some d :=
  treeOr?_of_getElem? (by simp [h])

theorem treeOr?_item_of_ne (h : p.position ≠ before.length) :
    p.treeOr? (.list (before ++ d :: after)) = p.treeOr? (.list (before ++ d' :: after)) := by
  have hitem : (before ++ d :: after)[p.position]? = (before ++ d' :: after)[p.position]? := by
    grind
  rw [treeOr?, treeOr?, tree?, tree?, hitem]

theorem treeOr?_concat_of_ne (h : p.position ≠ items.length) :
    p.treeOr? (.list (items ++ [d])) = p.treeOr? (.list items) := by
  have hitem : (items ++ [d])[p.position]? = items[p.position]? := by grind
  rw [treeOr?, treeOr?, tree?, tree?, hitem]

end

/-- The list of all fields holds at the position of a part what the record holds under its name. -/
theorem treeOr?_positions {s : Shape} (hp : p ∈ s.parts) {fields : List (String × Data)}
    {items : List Data} (hitems : items.map some = s.parts.map (·.treeOr? (.record fields))) :
    p.treeOr? (.list items) = p.treeOr? (.record fields) := by
  have hitem := congrArg (·[p.position]?) hitems
  simp only [List.getElem?_map, Shape.getElem?_parts hp, Option.map_some] at hitem
  obtain ⟨tree, htree, heq⟩ := Option.map_eq_some_iff.mp hitem
  rw [treeOr?_of_getElem? htree, heq]

end Part

/-! ## One change -/

theorem readAll_append_congr {α : Type} {read : Data → Except DataFault α} {d d' : Data}
    (h : (read d).toOption = (read d').toOption) (before after : List Data) :
    (readAll read (before ++ d :: after)).toOption
      = (readAll read (before ++ d' :: after)).toOption := by
  induction before with
  | nil => simp only [List.nil_append, readAll, toOption_bind, h]
  | cons first rest ih => simp only [List.cons_append, readAll, toOption_bind, ih]

theorem toChoice_keyed {α : Type} {known : List String} {pick : String → Option α}
    {word : String} :
    toChoice .json known pick (.record [(word, .null)])
      = toChoice .json known pick (.text word) := by
  rw [toChoice, toChoice]
  cases pickWord known pick word <;> rfl

theorem Target.read?_optional {t : Target} {d : Data} (h : d.isNull = false) :
    (Target.optional t).read? d = (t.read? d).map some := by
  have hread : (Target.optional t).read d = (t.read d).map some := if_neg (by simp [h])
  rw [Target.read?, hread, Target.read?]
  cases t.read d <;> rfl

/-- Neither spelling is null. -/
theorem Respelling.isNull_eq_false {t : Target} {d d' : Data} (h : Respelling t d d') :
    d.isNull = false ∧ d'.isNull = false := by
  induction h with
  | present h ih => exact ih
  | _ => exact ⟨rfl, rfl⟩

/-- A change of spelling leaves what the tree is read as. By induction on where the change is: of
the parts of a shape only one is touched, if any. -/
theorem Respelling.read?_eq {t : Target} {d d' : Data} (h : Respelling t d d') :
    t.read? d = t.read? d' := by
  induction h with
  | order hperm hkeys =>
    exact Shape.read?_congr (.record hkeys) (.record ((hperm.map Prod.fst).nodup hkeys))
      fun p _ => Part.read?_congr (Part.treeOr?_perm hperm hkeys)
  | unknown before after hkey hkeys =>
    have hrest := (nodup_keys_insert_iff.mp hkeys).2
    refine Shape.read?_congr (.record hrest) (.record hkeys) fun p hp => Part.read?_congr ?_
    exact (Part.treeOr?_insert_of_ne (ne_of_mem_of_not_mem (List.mem_map_of_mem hp) hkey)).symm
  | @default s before after p tree hp hdefault hkeys =>
    obtain ⟨hmissing, hrest⟩ := nodup_keys_insert_iff.mp hkeys
    refine Shape.read?_congr (.record hrest) (.record hkeys) fun q hq => Part.read?_congr ?_
    by_cases hname : q.name = p.name
    · obtain rfl := Shape.eq_of_name_eq hq hp hname
      rw [Part.treeOr?_of_missing hmissing, Part.treeOr?_insert_self hkeys, hdefault]
    · exact (Part.treeOr?_insert_of_ne hname).symm
  | @positions s fields items hkeys hitems =>
    have hlength : items.length = s.parts.length := by simpa using congrArg List.length hitems
    exact Shape.read?_congr (.record hkeys) (.list (Nat.le_of_eq hlength))
      fun p hp => Part.read?_congr (Part.treeOr?_positions hp hitems).symm
  | @cut s items p tree hp hposition hdefault =>
    have hlength : items.length + 1 ≤ s.parts.length := hposition ▸ Shape.position_lt hp
    refine Shape.read?_congr (.list (by simpa using hlength)) (.list (by omega))
      fun q hq => Part.read?_congr ?_
    by_cases hlast : q.position = items.length
    · obtain rfl := Shape.eq_of_position_eq hq hp (hlast.trans hposition.symm)
      rw [Part.treeOr?_of_cut hlast, hdefault]
      exact Part.treeOr?_of_getElem? (by rw [hlast, List.getElem?_concat_length])
    · exact Part.treeOr?_concat_of_ne hlast
  | synonym h =>
    simp only [Variance.synonyms, List.mem_cons, Prod.mk.injEq, List.not_mem_nil, or_false] at h
    rcases h with ⟨rfl, rfl⟩ | ⟨rfl, rfl⟩ | ⟨rfl, rfl⟩ <;> rfl
  | keyed ht => rcases ht with rfl | rfl <;> exact congrArg Except.toOption toChoice_keyed.symm
  | @field s before after p d d' hp hkeys h ih =>
    have hkeys' : ((before ++ (p.name, d') :: after).map Prod.fst).Nodup := by simpa using hkeys
    refine Shape.read?_congr (.record hkeys) (.record hkeys') fun q hq => ?_
    by_cases hname : q.name = p.name
    · obtain rfl := Shape.eq_of_name_eq hq hp hname
      rw [Part.read?_of_treeOr? (Part.treeOr?_insert_self hkeys),
        Part.read?_of_treeOr? (Part.treeOr?_insert_self hkeys'), ih]
    · apply Part.read?_congr
      rw [Part.treeOr?_insert_of_ne hname, Part.treeOr?_insert_of_ne hname]
  | @item s before after p d d' hp hposition hlength h ih =>
    have hlength' : (before ++ d' :: after).length ≤ s.parts.length := by simpa using hlength
    refine Shape.read?_congr (.list hlength) (.list hlength') fun q hq => ?_
    by_cases hhere : q.position = before.length
    · obtain rfl := Shape.eq_of_position_eq hq hp (hhere.trans hposition.symm)
      rw [Part.read?_of_treeOr? (Part.treeOr?_item_self hhere),
        Part.read?_of_treeOr? (Part.treeOr?_item_self hhere), ih]
    · exact Part.read?_congr (Part.treeOr?_item_of_ne hhere)
  | element before after h ih => exact readAll_append_congr ih before after
  | present h ih =>
    obtain ⟨hd, hd'⟩ := h.isNull_eq_false
    rw [Target.read?_optional hd, Target.read?_optional hd', ih]

/-! ## Any number of changes -/

/-- Trees that differ by changes of spelling, each made in either direction. -/
def Respelled (t : Target) : Data → Data → Prop :=
  Relation.EqvGen (Respelling t)

theorem Respelled.read?_eq {t : Target} {d d' : Data} (h : Respelled t d d') :
    t.read? d = t.read? d' :=
  congrArg (Quot.lift t.read? fun _ _ h => h.read?_eq) (Quot.eqvGen_sound h)

/-- What is respelled in a place where a single change can be made can be respelled there. -/
theorem Respelled.lift {t t' : Target} {d d' : Data} (h : Respelled t d d') (place : Data → Data)
    (hplace : ∀ d d', Respelling t d d' → Respelling t' (place d) (place d')) :
    Respelled t' (place d) (place d') := by
  induction h with
  | rel d d' h => exact .rel _ _ (hplace d d' h)
  | refl d => exact .refl _
  | symm d d' _ ih => exact .symm _ _ ih
  | trans d d' d'' _ _ ih ih' => exact .trans _ _ _ ih ih'

/-- However a declaration is spelled, the same one is read, with the arguments of its annotations in
the same order; and a tree that is no declaration does not become one. -/
theorem Declaration.ofData_eq_ok_iff_of_respelled {j j' : Data}
    (h : Respelled (.shape .declaration) j j') (decl : Declaration) :
    Declaration.ofData .json j = .ok decl ↔ Declaration.ofData .json j' = .ok decl := by
  rw [← toOption_eq_some_iff, ← toOption_eq_some_iff]
  exact iff_of_eq (congrArg (· = some decl) h.read?_eq)

/-- A generic argument in record form. -/
def itemArgument (variance : Data) : Data :=
  .record [("variance", variance), ("type", .record [("name", .text "Item")])]

/-- The same argument in list form with its type in list form too, fields that have their default
left out. -/
def itemArgumentItems : Data :=
  .list [.record [("covariant", .null)], .list [.text "Item"]]

def itemsType (argument : Data) : Data :=
  .record [("name", .text "List"), ("arguments", .list [argument])]

/-- The fields of a declaration with a property of that type. -/
def shelf (type : Data) : List (String × Data) :=
  [("name", .text "Shelf"), ("kind", .text "object"),
    ("annotations", .list [.list [.text "Function",
      .record [("b", .text "1"), ("a", .boolean true)]]]),
    ("properties", .list [.record [("name", .text "items"), ("type", type)]])]

/-- The fields in another order, after one that no declaration has. -/
def mixedShelf : List (String × Data) :=
  ("owner", .list []) :: (shelf (itemsType itemArgumentItems)).reverse

theorem itemArgument_respelled :
    Respelled (.shape .typeArgument) (itemArgument (.text "out")) itemArgumentItems := by
  have hvariance (d d' : Data) (h : Respelling .variance d d') :
      Respelling (.shape .typeArgument) (itemArgument d) (itemArgument d') :=
    .field [] [("type", _)] (p := Shape.typeArgument.parts[0]) (List.getElem_mem _)
      (show ["variance", "type"].Nodup by decide) h
  have hword := hvariance (.text "out") (.text "covariant") (.synonym (by decide))
  have hkey := hvariance (.text "covariant") (.record [("covariant", .null)]) (.keyed (.inr rfl))
  have hitems : Respelling (.shape .typeArgument) (itemArgument (.record [("covariant", .null)]))
      (.list [.record [("covariant", .null)], .record [("name", .text "Item")]]) :=
    .positions (by decide) rfl
  have htype (d d' : Data) (h : Respelling (.shape .typeRef) d d') :
      Respelling (.shape .typeArgument) (.list [.record [("covariant", .null)], d])
        (.list [.record [("covariant", .null)], d']) :=
    .item [_] [] (p := Shape.typeArgument.parts[1]) (List.getElem_mem _) rfl
      (show 2 ≤ 2 from Nat.le_refl 2) (.present h)
  have htypeItems := htype (.record [("name", .text "Item")])
    (.list [.text "Item", .boolean false, .list []]) (.positions (by decide) rfl)
  have hwithoutArguments := htype _ (.list [.text "Item", .boolean false])
    (.cut [_, _] (p := Shape.typeRef.parts[2]) (List.getElem_mem _) rfl rfl)
  have hwithoutNullable := htype _ (.list [.text "Item"])
    (.cut [_] (p := Shape.typeRef.parts[1]) (List.getElem_mem _) rfl rfl)
  exact .trans _ _ _ (.rel _ _ hword) <| .trans _ _ _ (.rel _ _ hkey) <|
    .trans _ _ _ (.rel _ _ hitems) <| .trans _ _ _ (.rel _ _ htypeItems) <|
    .trans _ _ _ (.rel _ _ hwithoutArguments) (.rel _ _ hwithoutNullable)

theorem shelf_respelled :
    Respelled (.shape .declaration) (.record (shelf (itemsType (itemArgument (.text "out")))))
      (.record mixedShelf) := by
  have hargument := itemArgument_respelled.lift (fun d => .record (shelf (itemsType d)))
    fun d d' h => .field [_, _, _] [] (p := Shape.declaration.parts[3]) (List.getElem_mem _)
      (show ["name", "kind", "annotations", "properties"].Nodup by decide) <| .element [] [] <|
      .field [_] [] (p := Shape.property.parts[1]) (List.getElem_mem _)
      (show ["name", "type"].Nodup by decide) <|
      .field [_] [] (p := Shape.typeRef.parts[2]) (List.getElem_mem _)
      (show ["name", "arguments"].Nodup by decide) (.element [] [] h)
  have horder : Respelling (.shape .declaration) (.record (shelf (itemsType itemArgumentItems)))
      (.record (shelf (itemsType itemArgumentItems)).reverse) :=
    .order (List.reverse_perm _).symm (by decide)
  have hunknown : Respelling (.shape .declaration)
      (.record (shelf (itemsType itemArgumentItems)).reverse) (.record mixedShelf) :=
    .unknown [] _ (by decide) (by decide)
  exact .trans _ _ _ hargument (.trans _ _ _ (.rel _ _ horder) (.rel _ _ hunknown))

/-- Both spellings are read as the declaration of an object with one covariant argument. -/
theorem shelf_ofData_of_respelled :
    Respelled (.shape .declaration) (.record (shelf (itemsType (itemArgument (.text "out")))))
      (.record mixedShelf)
    ∧ Declaration.ofData .json (.record mixedShelf) = .ok
      { name := "Shelf"
        kind := .objectKind
        annotations :=
          [{ name := "Function", arguments := .ofList [("b", .text "1"), ("a", .boolean true)] }]
        properties :=
          [{ name := "items"
             type :=
              { name := some "List"
                arguments := [TypeArgument.covariant { name := some "Item" }] } }] } :=
  ⟨shelf_respelled, (Declaration.ofData_eq_ok_iff_of_respelled shelf_respelled _).mp rfl⟩

end Stubsmith
