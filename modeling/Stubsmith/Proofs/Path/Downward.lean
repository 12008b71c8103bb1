import Stubsmith.Proofs.Path.Ancestors

/-!
# Paths that only go down

The components of a path can all be names of entries although its text has further slashes and dots.
For a disk such a path goes down by these names from the directory where relative paths start
(`Path.goesDown_of_components`), and its parent goes down by fewer of them
(`Path.GoesDown.exists_names_parent`).
-/

namespace Stubsmith.Path

/-- The path takes the steps down that are named, with no more than dots between them. -/
structure GoesDown (p : Path) (names : List String) : Prop where
  isRelative : p.isAbsolute = false
  head : p.segments.head? ≠ some "."
  notUp : ∀ name ∈ p.names, name ≠ ".."
  names_eq : p.names.filter (· ≠ ".") = names

section

variable {p parent : Path} {names segments : List String}

/-- Segments that are steps down, or none at all, name these steps and dots. -/
theorem namesOf_of_filterMap_ofSegment?
    (h : segments.filterMap Component.ofSegment? = names.map .normal) :
    (∀ name ∈ namesOf segments, name ≠ "..") ∧ (namesOf segments).filter (· ≠ ".") = names := by
  induction segments generalizing names with
  | nil =>
      have hnil : names = [] := List.map_eq_nil_iff.mp h.symm
      rw [hnil]
      exact ⟨nofun, rfl⟩
  | cons segment rest ih =>
      by_cases hempty : segment = ""
      · subst hempty
        exact ih h
      have hcons : namesOf (segment :: rest) = segment :: namesOf rest := by simp [namesOf, hempty]
      rw [hcons, List.forall_mem_cons]
      by_cases hdot : segment = "."
      · subst hdot
        obtain ⟨hup, hnames⟩ := ih h
        exact ⟨⟨by decide, hup⟩, hnames⟩
      by_cases hdots : segment = ".."
      · -- a step up would be the first component
        subst hdots
        cases names with
        | nil => cases h
        | cons first others =>
            injection h with hfirst _
            cases hfirst
      · have hsegment : Component.ofSegment? segment = some (.normal segment) := by
          simp [Component.ofSegment?, hempty, hdot, hdots]
        rw [List.filterMap_cons_some hsegment] at h
        cases names with
        | nil => cases h
        | cons first others =>
            injection h with hfirst hrest
            injection hfirst with hfirst
            obtain ⟨hup, hnames⟩ := ih hrest
            refine ⟨⟨hdots, hup⟩, ?_⟩
            rw [List.filter_cons_of_pos (by simpa using hdot), hnames, hfirst]

/-- A path whose components are all names goes down by them. -/
theorem goesDown_of_components (h : p.components = names.map .normal) : p.GoesDown names := by
  obtain ⟨segments⟩ := p
  cases segments with
  | nil =>
      have hnil : names = [] := List.map_eq_nil_iff.mp h.symm
      rw [hnil]
      exact ⟨rfl, by simp, nofun, rfl⟩
  | cons first rest =>
      by_cases hsingle : first = "" ∧ rest = []
      · obtain ⟨rfl, rfl⟩ := hsingle
        have hnil : names = [] := List.map_eq_nil_iff.mp h.symm
        rw [hnil]
        exact ⟨rfl, by simp, nofun, rfl⟩
      rw [components_cons fun hempty hrest => hsingle ⟨hempty, hrest⟩] at h
      have hnormal : ∀ c ∈ names.map Component.normal, ∃ name, Component.normal name = c := by
        simp
      rw [← h] at hnormal
      -- an empty first segment or a dot would be a component of its own
      have hfirst : first ≠ "" ∧ first ≠ "." := by
        constructor
        · rintro rfl
          obtain ⟨name, hroot⟩ := hnormal .root (by simp [Component.ofFirst])
          cases hroot
        · rintro rfl
          obtain ⟨name, hcurrent⟩ := hnormal .current (by simp [Component.ofFirst])
          cases hcurrent
      have hsegments : (first :: rest).filterMap Component.ofSegment? = names.map .normal := by
        rw [← h, Component.ofFirst, if_neg hfirst.1, if_neg hfirst.2]
        cases hstep : Component.ofSegment? first with
        | none => rw [List.filterMap_cons_none hstep]; rfl
        | some component => rw [List.filterMap_cons_some hstep]; rfl
      obtain ⟨hup, hnames⟩ := namesOf_of_filterMap_ofSegment? hsegments
      refine ⟨?_, by simpa using hfirst.2, hup, hnames⟩
      unfold isAbsolute
      split
      · next heq =>
          injection heq with heq _
          exact absurd heq hfirst.1
      · rfl

theorem GoesDown.mem_names (h : p.GoesDown names) {name : String} (hname : name ∈ names) :
    name ∈ p.names ∧ name ≠ "." := by
  rw [← h.names_eq] at hname
  simpa using List.mem_filter.mp hname

/-- The parent lacks a name at least. -/
theorem GoesDown.exists_names_parent (h : p.GoesDown names) (hparent : p.parent? = some parent) :
    parent.names <+: p.names ∧
      ∃ last rest, names = parent.names.filter (· ≠ ".") ++ last :: rest := by
  obtain ⟨dots, last, behind, hnames, hdots, hlast, _⟩ :=
    (isParent_of_parent?_eq_some hparent).names
  constructor
  · rw [hnames, List.append_assoc, List.append_assoc]
    exact List.prefix_append _ _
  · have hnone : dots.filter (· ≠ ".") = [] := List.filter_eq_nil_iff.mpr (by simpa using hdots)
    refine ⟨last, behind.filter (· ≠ "."), ?_⟩
    rw [← h.names_eq, hnames, List.filter_append, List.filter_append, List.filter_append, hnone,
      List.filter_cons_of_pos (by simpa using hlast h.head)]
    simp

end

end Stubsmith.Path
