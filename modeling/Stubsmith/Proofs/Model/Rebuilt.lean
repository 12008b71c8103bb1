import Stubsmith.Model.Rebuilt

/-!
# Which declarations can be built

The operations of building reach a declaration exactly if in the types of its properties all stars
are without a type and all other generic arguments have one (`Declaration.rebuilt_eq_self_iff`).
Arguments are looked for below unresolved types too, but not in a type that a star carries.
-/

namespace Stubsmith

/-- The type has the generic argument, at some depth. The type that a star carries is not looked
into. -/
inductive TypeRef.HasArgument : TypeRef → TypeArgument → Prop
  | here {t : TypeRef} {a : TypeArgument} (h : a ∈ t.arguments) : HasArgument t a
  | inside {t u : TypeRef} {a b : TypeArgument} (h : b ∈ t.arguments) (hstar : b.variance ≠ .star)
      (htype : b.type = some u) (ha : HasArgument u a) : HasArgument t a

/-- The argument is as the operations of building leave it: a star without a type, or another
argument with one. -/
def TypeArgument.IsPlain (a : TypeArgument) : Prop :=
  a.type = none ↔ a.variance = .star

/-- A type all of whose generic arguments are plain. -/
def TypeRef.IsPlain (t : TypeRef) : Prop :=
  ∀ a, t.HasArgument a → TypeArgument.IsPlain a

/-! ## Types -/

/-- A type is plain if its own arguments are, with the types that they apply to. -/
theorem TypeRef.isPlain_iff {t : TypeRef} :
    t.IsPlain ↔ ∀ a ∈ t.arguments, TypeArgument.IsPlain a ∧
      ∀ u, a.variance ≠ .star → a.type = some u → u.IsPlain := by
  constructor
  · intro h a ha
    exact ⟨h a (.here ha), fun u hstar hu b hb => h b (.inside ha hstar hu hb)⟩
  · intro h a ha
    cases ha with
    | here ha => exact (h a ha).1
    | inside hb hstar hu ha => exact (h _ hb).2 _ hstar hu a ha

/-- Arguments are added in their order. -/
theorem TypeRef.foldl_withArgument (t : TypeRef) (arguments : List TypeArgument) :
    arguments.foldl withArgument t = { t with arguments := t.arguments ++ arguments } := by
  induction arguments generalizing t with
  | nil =>
      rw [List.foldl_nil, List.append_nil]
      cases t
      rfl
  | cons a rest ih =>
      rw [List.foldl_cons, ih, withArgument, List.append_assoc, List.singleton_append]

/-- A type is rebuilt with its name and its mark. -/
theorem TypeRef.rebuilt_eq (t : TypeRef) :
    t.rebuilt = { t with arguments := TypeRef.rebuiltArguments t.arguments } := by
  obtain ⟨_ | name, _ | _, arguments⟩ := t <;>
    rw [TypeRef.rebuilt, foldl_withArgument] <;> rfl

mutual

/-- A type is rebuilt as it is exactly if it is plain. -/
theorem TypeRef.rebuilt_eq_self_iff : (t : TypeRef) → (t.rebuilt = t ↔ t.IsPlain)
  | ⟨name, nullable, arguments⟩ => by
      rw [TypeRef.rebuilt_eq, TypeRef.isPlain_iff, ← TypeRef.rebuiltArguments_eq_self_iff arguments]
      simp

/-- Arguments are rebuilt as they are exactly if they are plain, with their types. -/
theorem TypeRef.rebuiltArguments_eq_self_iff : (arguments : List (Projection TypeRef)) →
    (TypeRef.rebuiltArguments arguments = arguments ↔ ∀ a ∈ arguments,
      TypeArgument.IsPlain a ∧ ∀ u, a.variance ≠ .star → a.type = some u → u.IsPlain)
  | [] => by simp [TypeRef.rebuiltArguments]
  | a :: rest => by
      rw [TypeRef.rebuiltArguments, List.cons.injEq, TypeRef.rebuiltArgument_eq_self_iff a,
        TypeRef.rebuiltArguments_eq_self_iff rest, List.forall_mem_cons]

/-- A star is rebuilt as it is if it has no type, and another argument if it has one that is. -/
theorem TypeRef.rebuiltArgument_eq_self_iff : (a : Projection TypeRef) →
    (TypeRef.rebuiltArgument a = a ↔
      TypeArgument.IsPlain a ∧ ∀ u, a.variance ≠ .star → a.type = some u → u.IsPlain)
  | ⟨variance, none⟩ => by
      cases variance <;>
        simp [TypeRef.rebuiltArgument, TypeArgument.IsPlain, TypeArgument.star,
          TypeArgument.invariant, TypeArgument.covariant, TypeArgument.contravariant]
  | ⟨variance, some t⟩ => by
      have ht := TypeRef.rebuilt_eq_self_iff t
      cases variance <;>
        simp [TypeRef.rebuiltArgument, TypeRef.rebuiltType, TypeArgument.IsPlain, TypeArgument.star,
          TypeArgument.invariant, TypeArgument.covariant, TypeArgument.contravariant, ht]

end

/-! ## Declarations -/

/-- Arguments are set in their order. -/
theorem Annotation.foldl_withArgument (a : Annotation) (entries : List (String × Constant)) :
    entries.foldl (fun a entry => a.withArgument entry.1 entry.2) a
      = { a with arguments :=
            entries.foldl (fun m entry => m.insert entry.1 entry.2) a.arguments } := by
  induction entries generalizing a with
  | nil => rfl
  | cons entry rest ih => rw [List.foldl_cons, ih, List.foldl_cons, withArgument]

/-- No argument is set twice. -/
theorem Annotation.rebuilt_eq (a : Annotation) : a.rebuilt = a := by
  have hentries : OrderedMap.ofList a.arguments.entries = a.arguments :=
    OrderedMap.ext (OrderedMap.entries_ofList a.arguments.nodup)
  rw [rebuilt, foldl_withArgument]
  exact congrArg (fun arguments => Annotation.mk a.name arguments) hentries

/-- Annotations are added in their order. -/
theorem Declaration.foldl_annotatedWith (d : Declaration) (annotations : List Annotation) :
    annotations.foldl (fun d a => d.annotatedWith a.rebuilt) d
      = { d with annotations := d.annotations ++ annotations } := by
  induction annotations generalizing d with
  | nil => rw [List.foldl_nil, List.append_nil]
  | cons a rest ih =>
      rw [List.foldl_cons, ih, annotatedWith, Annotation.rebuilt_eq, List.append_assoc,
        List.singleton_append]

/-- Properties are added in their order. -/
theorem Declaration.foldl_withProperty (d : Declaration) (properties : List Property) :
    properties.foldl (fun d p => d.withProperty p.rebuilt) d
      = { d with properties := d.properties ++ properties.map Property.rebuilt } := by
  induction properties generalizing d with
  | nil => rw [List.foldl_nil, List.map_nil, List.append_nil]
  | cons p rest ih =>
      rw [List.foldl_cons, ih, withProperty, List.map_cons, List.append_assoc,
        List.singleton_append]

/-- A declaration is rebuilt with other property types only. -/
theorem Declaration.rebuilt_eq (d : Declaration) :
    d.rebuilt
      = { d with properties := d.properties.map fun p => { p with type := p.type.rebuilt } } := by
  rw [rebuilt]
  rw [foldl_annotatedWith, foldl_withProperty]
  rfl

/-- A declaration is rebuilt as it is exactly if the types of its properties are plain. -/
theorem Declaration.rebuilt_eq_self_iff (d : Declaration) :
    d.rebuilt = d ↔ ∀ p ∈ d.properties, p.type.IsPlain := by
  obtain ⟨name, kind, annotations, properties, valid⟩ := d
  rw [rebuilt_eq, Declaration.mk.injEq]
  simp only [true_and, and_true]
  induction properties with
  | nil => simp
  | cons p rest ih =>
      obtain ⟨name, type, valid⟩ := p
      rw [List.map_cons, List.cons.injEq, ih, List.forall_mem_cons, ← TypeRef.rebuilt_eq_self_iff]
      simp

end Stubsmith
