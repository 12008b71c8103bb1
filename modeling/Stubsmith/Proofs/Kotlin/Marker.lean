import Stubsmith.Proofs.Kotlin.Rendering

/-!
# The annotation that names a function

A declaration is selected for an annotation of the marker's qualified name, while its function is
named by the first annotation of the marker's simple name. The two are the same annotation unless
one with another qualified name and the same simple name stands before the marker: then the
declaration is overshadowed (`Declaration.IsOvershadowed`), and `overshadowed_named_by_other` shows
that the other annotation can give the name or withhold it. In every other case the function is the
one that the declaration would have with its markers alone (`writeFunction_named_by_marker`).
-/

namespace Stubsmith

open Kotlin

namespace Declaration

/-- An annotation of another qualified name, but of the marker's simple name, stands before every
annotation of the marker. -/
def IsOvershadowed (c : Configuration) (decl : Declaration) : Prop :=
  ∃ before a after, decl.annotations = before ++ a :: after ∧ a.name ≠ c.marker ∧
    a.simpleName = c.markerSimpleName ∧ ∀ b ∈ before, b.name ≠ c.marker

/-- The declaration without its annotations of other qualified names than the marker's. -/
def markersOnly (c : Configuration) (decl : Declaration) : Declaration :=
  { decl with annotations := decl.annotations.filter (·.name == c.marker) }

end Declaration

/-! ## Looking an annotation up -/

/-- The first element with a property is the first one with a stronger property, if nothing with the
weaker property alone comes before all that have the stronger one. -/
theorem find?_eq_find?_of_imp {α : Type} {p q : α → Bool} (hqp : ∀ x, q x = true → p x = true)
    {l : List α}
    (hfirst : ∀ before x after, l = before ++ x :: after → p x = true →
      (∀ b ∈ before, q b = false) → q x = true) :
    l.find? p = l.find? q := by
  induction l with
  | nil => rfl
  | cons y rest ih =>
      by_cases hq : q y = true
      · rw [List.find?_cons_of_pos (hqp y hq), List.find?_cons_of_pos hq]
      · have hp : ¬ p y = true := by
          intro hp
          exact hq (hfirst [] y rest rfl hp (by simp))
        rw [List.find?_cons_of_neg hp, List.find?_cons_of_neg hq]
        apply ih
        intro before x after hsplit hx hbefore
        refine hfirst (y :: before) x after (by rw [hsplit, List.cons_append]) hx ?_
        intro b hb
        rcases List.mem_cons.mp hb with rfl | hb
        · simpa using hq
        · exact hbefore b hb

section

variable {c : Configuration} {decl : Declaration}

/-- The marker has its own simple name. -/
theorem simpleName_of_name_eq {a : Annotation} (h : a.name = c.marker) :
    a.simpleName = c.markerSimpleName := by
  unfold Annotation.simpleName
  rw [h]
  rfl

/-- Unless the declaration is overshadowed, the first annotation of the marker's simple name is the
first of its qualified name. -/
theorem Declaration.findBySimpleName?_of_not_isOvershadowed (h : ¬ decl.IsOvershadowed c) :
    decl.findBySimpleName? c.markerSimpleName
      = decl.annotations.find? (·.name == c.marker) := by
  apply find?_eq_find?_of_imp
  · intro a ha
    simpa using simpleName_of_name_eq (by simpa using ha)
  · intro before a after hsplit ha hbefore
    by_cases hname : a.name = c.marker
    · simpa using hname
    · have hnone : ∀ b ∈ before, b.name ≠ c.marker := by
        intro b hb
        simpa using hbefore b hb
      exact absurd ⟨before, a, after, hsplit, hname, by simpa using ha, hnone⟩ h

/-- A declaration is overshadowed exactly if the first annotation of the marker's simple name is not
the marker. -/
theorem Declaration.isOvershadowed_iff :
    decl.IsOvershadowed c
      ↔ ∃ a ∈ decl.findBySimpleName? c.markerSimpleName, a.name ≠ c.marker := by
  constructor
  · rintro ⟨before, a, after, hsplit, hname, hsimple, hbefore⟩
    have hfind : decl.findBySimpleName? c.markerSimpleName
        = (before.find? (·.simpleName == c.markerSimpleName)).or (some a) := by
      rw [findBySimpleName?, hsplit, List.find?_append,
        List.find?_cons_of_pos (by simpa using hsimple)]
    cases hearlier : before.find? (·.simpleName == c.markerSimpleName) with
    | none => exact ⟨a, by rw [hfind, hearlier]; rfl, hname⟩
    | some b =>
        -- the annotation found stands even earlier, where there is no marker either
        have hb : b ∈ before := List.mem_of_find?_eq_some hearlier
        exact ⟨b, by rw [hfind, hearlier]; rfl, hbefore b hb⟩
  · rintro ⟨a, ha, hname⟩
    obtain ⟨hsimple, before, after, hsplit, hbefore⟩ := List.find?_eq_some_iff_append.mp ha
    refine ⟨before, a, after, hsplit, hname, by simpa using hsimple, ?_⟩
    intro b hb hmarker
    have hother := hbefore b hb
    simp [simpleName_of_name_eq hmarker] at hother

instance : Decidable (decl.IsOvershadowed c) :=
  decidable_of_iff' _ Declaration.isOvershadowed_iff

/-- Among the markers alone the same annotation is found by either name. -/
theorem Declaration.findBySimpleName?_markersOnly (c : Configuration) (decl : Declaration) :
    (decl.markersOnly c).findBySimpleName? c.markerSimpleName
      = decl.annotations.find? (·.name == c.marker) := by
  rw [findBySimpleName?, markersOnly, List.find?_filter]
  congr 1
  funext a
  by_cases ha : a.name = c.marker
  · simp [ha, simpleName_of_name_eq ha]
  · simp [ha]

/-- A marked declaration has an annotation of the marker's simple name. -/
theorem Declaration.exists_findBySimpleName? (h : decl.isAnnotatedWith c.marker = true) :
    ∃ a, decl.findBySimpleName? c.markerSimpleName = some a := by
  obtain ⟨a, ha, hname⟩ := List.any_eq_true.mp h
  have hsimple := simpleName_of_name_eq (c := c) (by simpa using hname)
  rw [← Option.isSome_iff_exists, findBySimpleName?, List.find?_isSome]
  exact ⟨a, ha, by simpa using hsimple⟩

/-- An annotation of another simple name can be dropped without any effect on what is found, and so
can one that stands behind a marker. -/
theorem find?_append_of_idle {before : List Annotation} {a : Annotation} (after : List Annotation)
    (h : a.simpleName ≠ c.markerSimpleName ∨ ∃ b ∈ before, b.name = c.marker) :
    (before ++ a :: after).find? (·.simpleName == c.markerSimpleName)
      = (before ++ after).find? (·.simpleName == c.markerSimpleName) := by
  rw [List.find?_append, List.find?_append]
  rcases h with hsimple | ⟨b, hb, hname⟩
  · rw [List.find?_cons_of_neg (by simpa using hsimple)]
  · have hsome : (before.find? (·.simpleName == c.markerSimpleName)).isSome = true := by
      rw [List.find?_isSome]
      exact ⟨b, hb, by simpa using simpleName_of_name_eq hname⟩
    obtain ⟨first, hfirst⟩ := Option.isSome_iff_exists.mp hsome
    rw [hfirst, Option.some_or, Option.some_or]

end

/-! ## Writing the function -/

/-- Annotations matter to a function only by what is found under the marker's simple name. -/
theorem Draft.writeFunction_with_annotations {c : Configuration} {decl : Declaration}
    {annotations : List Annotation}
    (h : annotations.find? (·.simpleName == c.markerSimpleName)
      = decl.findBySimpleName? c.markerSimpleName) (d : Draft) :
    d.writeFunction c { decl with annotations } = d.writeFunction c decl := by
  have hname : functionName c { decl with annotations } = functionName c decl := by
    simp only [functionName, Declaration.findBySimpleName?] at h ⊢
    rw [h]
  have hkind : checkKind c { decl with annotations } = checkKind c decl := rfl
  have hparameters : Declaration.parameters { decl with annotations } = decl.parameters := rfl
  simp only [writeFunction, hname, hkind, hparameters]

/-- A function that is written has the name that it was to have. -/
theorem Draft.name_of_writeNamed {policy : GapPolicy} {owner name : String}
    {parameters : List Property} {d d' : Draft} {f : WrittenFunction}
    (h : d.writeNamed policy owner name parameters = (d', .ok f)) : f.name = name := by
  rw [writeNamed] at h
  split at h
  · simp only [Prod.mk.injEq, Except.ok.injEq] at h
    rw [← h.2]
  · rcases hw : (d.line ("fun " ++ name ++ "(")).indent.writeParameters policy owner parameters with
      ⟨e, fault | faults⟩
    · simp [hw] at h
    · simp only [hw, Prod.mk.injEq, Except.ok.injEq] at h
      rw [← h.2]

/-- A function that is written has the name that the annotation found gives it. -/
theorem Draft.name_of_writeFunction {c : Configuration} {decl : Declaration} {a : Annotation}
    (ha : decl.findBySimpleName? c.markerSimpleName = some a) {d d' : Draft} {f : WrittenFunction}
    (h : d.writeFunction c decl = (d', .ok f)) : a.get? c.nameArgument = some (.text f.name) := by
  cases hname : requestedName c decl with
  | error fault =>
      rw [writeFunction_of_error d hname] at h
      simp at h
  | ok name =>
      rw [writeFunction_of_ok d hname] at h
      obtain ⟨_, hgiven⟩ := (requestedName_eq_ok_iff c decl name).mp hname
      rw [Declaration.givenName?, ← Declaration.findBySimpleName?, ha, Option.bind_some] at hgiven
      rw [name_of_writeNamed h]
      cases hvalue : a.get? c.nameArgument with
      | none => simp [hvalue] at hgiven
      | some value => cases value <;> simp_all

/-- **The annotation that names a function.** The name of a marked declaration is asked of the first
annotation that has the marker's simple name. That is an annotation of the marker unless the
declaration is overshadowed, and then the function is the same as with the markers alone. An
annotation of another simple name, or one behind a marker, neither gives the name nor withholds it:
the function is the same without it. -/
theorem writeFunction_named_by_marker (c : Configuration) (decl : Declaration)
    (hmarked : decl.isAnnotatedWith c.marker = true) :
    (∃ a, decl.findBySimpleName? c.markerSimpleName = some a ∧
      (a.name = c.marker ∨ decl.IsOvershadowed c) ∧
      ∀ (d d' : Draft) (f : WrittenFunction), d.writeFunction c decl = (d', .ok f) →
        a.get? c.nameArgument = some (.text f.name)) ∧
    (¬ decl.IsOvershadowed c →
      ∀ d : Draft, d.writeFunction c decl = d.writeFunction c (decl.markersOnly c)) ∧
    (∀ before a after, decl.annotations = before ++ a :: after →
      (a.simpleName ≠ c.markerSimpleName ∨ ∃ b ∈ before, b.name = c.marker) →
      ∀ d : Draft, d.writeFunction c decl
        = d.writeFunction c { decl with annotations := before ++ after }) := by
  refine ⟨?_, ?_, ?_⟩
  · obtain ⟨a, ha⟩ := decl.exists_findBySimpleName? hmarked
    refine ⟨a, ha, ?_, fun d d' f h => Draft.name_of_writeFunction ha h⟩
    by_cases hname : a.name = c.marker
    · exact Or.inl hname
    · exact Or.inr (Declaration.isOvershadowed_iff.mpr ⟨a, ha, hname⟩)
  · intro hover d
    have hfind := Declaration.findBySimpleName?_markersOnly c decl
    rw [← Declaration.findBySimpleName?_of_not_isOvershadowed hover] at hfind
    exact (Draft.writeFunction_with_annotations hfind d).symm
  · intro before a after hsplit hidle d
    have hfind := find?_append_of_idle after hidle
    rw [← hsplit] at hfind
    exact (Draft.writeFunction_with_annotations hfind.symm d).symm

/-- An annotation that names a function. -/
def annotationNaming (qualified function : String) : Annotation :=
  .withArgument { name := qualified } "erstesArgument" (.text function)

/-- An object with annotations and no properties. -/
def annotatedObject (annotations : List Annotation) : Declaration :=
  { name := "org.example.Greeter", kind := .objectKind, annotations }

/-- A marker that stands before another annotation of its simple name gives the name. -/
theorem annotatedObject_named_by_marker :
    let decl := annotatedObject
      [.bare "org.example.Other", annotationNaming "org.example.Function" "greet",
        annotationNaming "com.other.Function" "other"]
    decl.isAnnotatedWith "org.example.Function" = true ∧ ¬ decl.IsOvershadowed {} ∧
      (({} : Draft).writeFunction {} decl).2 = .ok { name := "greet" } := by
  intro decl
  have hmarked : decl.isAnnotatedWith ({} : Configuration).marker = true := by decide
  have hover : ¬ decl.IsOvershadowed {} := by decide
  refine ⟨hmarked, hover, ?_⟩
  rw [(writeFunction_named_by_marker {} decl hmarked).2.1 hover]
  rfl

/-- **An overshadowed declaration is not named by its marker.** The annotation before the marker
gives the name if it can, and if it cannot the marker's name is not used either. -/
theorem overshadowed_named_by_other :
    let marker := annotationNaming "org.example.Function" "greet"
    let supplied := annotatedObject [annotationNaming "com.other.Function" "other", marker]
    let blocked := annotatedObject [.bare "com.other.Function", marker]
    supplied.isAnnotatedWith ({} : Configuration).marker = true ∧
      (({} : Draft).writeFunction {} supplied).2 = .ok { name := "other" } ∧
      (∀ a ∈ supplied.annotations, a.name = ({} : Configuration).marker →
        a.get? ({} : Configuration).nameArgument = some (.text "greet")) ∧
      blocked.isAnnotatedWith ({} : Configuration).marker = true ∧
      (({} : Draft).writeFunction {} blocked).2
        = .error (.missingName "org.example.Greeter" "Function" "erstesArgument") ∧
      (({} : Draft).writeFunction {} (blocked.markersOnly {})).2 = .ok { name := "greet" } := by
  refine ⟨by decide, rfl, ?_, by decide, rfl, rfl⟩
  intro a ha hname
  simp only [annotatedObject, List.mem_cons, List.not_mem_nil, or_false] at ha
  rcases ha with rfl | rfl
  · exact absurd hname (by decide)
  · rfl

end Stubsmith
