import Stubsmith.Proofs.Path.Ancestors

/-!
# Paths below a path

Names of entries that are joined to a path are further names for the disk, and do not change where
the path starts.
-/

namespace Stubsmith.Path

section

variable {names : List String}

theorem names_front (base : Path) : namesOf base.front = base.names := by
  obtain ⟨segments⟩ := base
  rcases List.eq_nil_or_concat' segments with rfl | ⟨init, last, rfl⟩
  · rfl
  · by_cases hlast : last = ""
    · rw [hlast, front_slash, names, List.filter_append]
      exact (List.append_nil _).symm
    · rw [front_of_ne hlast]
      rfl

/-- Names of entries are further names of a path. -/
theorem names_front_append (base : Path) (h : ∀ name ∈ names, IsEntryName name) :
    (⟨base.front ++ names⟩ : Path).names = base.names ++ names := by
  have hnames : namesOf names = names :=
    List.filter_eq_self.mpr fun name hname => by simpa using (h name hname).ne_empty
  calc (⟨base.front ++ names⟩ : Path).names
      = namesOf base.front ++ namesOf names := namesOf_append base.front names
    _ = base.names ++ names := by rw [names_front, hnames]

/-- Of several segments the first one decides whether the path starts at the root. -/
theorem isAbsolute_cons_append (first : String) (rest : List String) (hne : names ≠ []) :
    (⟨first :: (rest ++ names)⟩ : Path).isAbsolute = (first == "") := by
  obtain ⟨second, others, hcons⟩ :=
    List.exists_cons_of_ne_nil (List.append_ne_nil_of_right_ne_nil rest hne)
  rw [hcons]
  by_cases hfirst : first = ""
  · rw [hfirst]
    rfl
  · rw [beq_false_of_ne hfirst]
    unfold isAbsolute
    split
    · next heq =>
        injection heq with heq _
        exact absurd heq hfirst
    · rfl

/-- Names of entries do not change where a path starts. -/
theorem isAbsolute_front_append (base : Path) (hne : names ≠ [])
    (h : ∀ name ∈ names, IsEntryName name) :
    (⟨base.front ++ names⟩ : Path).isAbsolute = base.isAbsolute := by
  obtain ⟨segments⟩ := base
  rcases List.eq_nil_or_concat' segments with rfl | ⟨init, last, rfl⟩
  · exact isAbsolute_of_names h
  · by_cases hlast : last = ""
    · rw [hlast, front_slash]
      cases init with
      | nil => exact isAbsolute_of_names h
      | cons first rest =>
          rw [List.cons_append, List.cons_append, isAbsolute_cons_append first rest hne,
            isAbsolute_cons_append first rest (List.cons_ne_nil "" [])]
    · rw [front_of_ne hlast]
      cases init with
      | nil =>
          have hsingle : (⟨[last]⟩ : Path).isAbsolute = false := by
            unfold isAbsolute
            split
            · next heq => cases heq
            · rfl
          rw [List.nil_append, List.singleton_append, hsingle, ← List.nil_append names,
            isAbsolute_cons_append last [] hne, beq_false_of_ne hlast]
      | cons first rest =>
          rw [List.cons_append, List.cons_append, isAbsolute_cons_append first _ hne,
            isAbsolute_cons_append first rest (List.cons_ne_nil last [])]

end

end Stubsmith.Path
