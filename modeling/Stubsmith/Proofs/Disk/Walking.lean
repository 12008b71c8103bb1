import Mathlib.Data.List.Induction
import Stubsmith.Proofs.Disk.Standing

/-!
# Following names on a disk

There are no links, so a path leads to one place only, whatever is on the disk (`Disk.lead`); what
is on the disk decides whether the place can be reached. Names are followed to the end if there is a
directory at every place on the way (`Disk.Reaches`). If files are at none of these places,
following them either gets there or finds nothing at some place (`Disk.Clear.walk`).
-/

namespace Stubsmith.Disk

/-! ## Places -/

/-- The place one step further. -/
def follow (place : List String) (name : String) : List String :=
  if name = "." then place else if name = ".." then place.dropLast else place ++ [name]

/-- The place at the end of several steps. -/
def lead (place names : List String) : List String :=
  names.foldl follow place

/-- Whether the name is short enough for an entry. -/
def IsShort (name : String) : Prop :=
  name.utf8ByteSize ≤ maxNameLength

instance (name : String) : Decidable (IsShort name) :=
  inferInstanceAs (Decidable (name.utf8ByteSize ≤ maxNameLength))

/-- Whether the step goes down to an entry of that name. -/
def IsDown (name : String) : Prop :=
  name ≠ "." ∧ name ≠ ".."

section

variable {place names more : List String} {name : String}

@[simp] theorem lead_nil (place : List String) : lead place [] = place := rfl

@[simp] theorem lead_cons (place : List String) (name : String) (names : List String) :
    lead place (name :: names) = lead (follow place name) names := rfl

@[simp] theorem lead_append (place names more : List String) :
    lead place (names ++ more) = lead (lead place names) more :=
  List.foldl_append

theorem follow_of_isDown (h : IsDown name) (place : List String) :
    follow place name = place ++ [name] := by
  rw [follow, if_neg h.1, if_neg h.2]

/-- Names that never lead up lead to the place that has them at its end, but for single dots. -/
theorem lead_of_forall_ne (h : ∀ name ∈ names, name ≠ "..") (place : List String) :
    lead place names = place ++ names.filter (· ≠ ".") := by
  induction names generalizing place with
  | nil => exact (List.append_nil place).symm
  | cons name rest ih =>
      rw [List.forall_mem_cons] at h
      rw [lead_cons, ih h.2]
      by_cases hdot : name = "."
      · simp [follow, hdot]
      · simp [follow_of_isDown ⟨hdot, h.1⟩, hdot]

/-- Steps down lead to the place that has their names at its end. -/
theorem lead_of_isDown (h : ∀ name ∈ names, IsDown name) (place : List String) :
    lead place names = place ++ names := by
  rw [lead_of_forall_ne fun name hname => (h name hname).2,
    List.filter_eq_self.mpr fun name hname => by simpa using (h name hname).1]

end

/-! ## Single steps -/

section

variable {d : Disk} {place : List String} {name : String}

theorem step_of_directory (hplace : d.standing? place = some .directory) (hshort : IsShort name)
    (h : d.standing? (follow place name) = some .directory) :
    d.step place name = .ok (follow place name) := by
  have hdirectory : d.isDirectoryAt place = true := isDirectoryAt_iff.mpr hplace
  rw [step, if_neg (by simp [hdirectory])]
  unfold follow at h ⊢
  split
  · rfl
  split
  · rfl
  · next hdot hdots =>
      rw [if_neg hdot, if_neg hdots] at h
      rw [if_neg (Nat.not_lt.mpr hshort), if_pos (isSome_at?_iff.mpr (by simp [h]))]

theorem step_of_none (hplace : d.standing? place = some .directory) (hshort : IsShort name)
    (h : d.standing? (follow place name) = none) : d.step place name = .error .notFound := by
  have hdirectory : d.isDirectoryAt place = true := isDirectoryAt_iff.mpr hplace
  have habove := standing?_dropLast hplace
  unfold follow at h
  split at h
  · rw [hplace] at h
    cases h
  split at h
  · rw [habove] at h
    cases h
  · next hdot hdots =>
      rw [step, if_neg (by simp [hdirectory]), if_neg hdot, if_neg hdots,
        if_neg (Nat.not_lt.mpr hshort), if_neg (by simp [isSome_at?_iff, h])]

theorem of_step_eq_ok {place' : List String} (h : d.step place name = .ok place') :
    d.standing? place = some .directory ∧ IsShort name ∧ place' = follow place name := by
  unfold step at h
  unfold follow
  split at h
  · cases h
  next hdirectory =>
    have hplace : d.standing? place = some .directory :=
      isDirectoryAt_iff.mp (by simpa using hdirectory)
    split at h
    · next hdot =>
        injection h with h
        exact ⟨hplace, by subst hdot; decide, by rw [if_pos hdot, h]⟩
    split at h
    · next hdot hdots =>
        injection h with h
        exact ⟨hplace, by subst hdots; decide, by rw [if_neg hdot, if_pos hdots, h]⟩
    split at h
    · cases h
    split at h
    · next hdot hdots hlong _ =>
        injection h with h
        exact ⟨hplace, Nat.le_of_not_lt hlong, by rw [if_neg hdot, if_neg hdots, h]⟩
    · cases h

end

/-! ## Several steps -/

/-- A directory is at every place to which the names lead one after another. -/
structure Reaches (d : Disk) (place names : List String) : Prop where
  short : ∀ name ∈ names, IsShort name
  directory : ∀ front, front <+: names → d.standing? (lead place front) = some .directory

/-- The names lead through no file, as far as they can be followed. -/
structure Clear (d : Disk) (place names : List String) : Prop where
  start : d.standing? place = some .directory
  short : ∀ name ∈ names, IsShort name
  noFile : ∀ front, front <+: names →
    ∀ content, d.standing? (lead place front) ≠ some (.file content)

section

variable {d : Disk} {place names more : List String} {name : String}

theorem Reaches.start (h : d.Reaches place names) : d.standing? place = some .directory :=
  h.directory [] List.nil_prefix

theorem Reaches.clear (h : d.Reaches place names) : d.Clear place names where
  start := h.start
  short := h.short
  noFile := by
    intro front hfront content
    rw [h.directory front hfront]
    simp

theorem reaches_nil (h : d.standing? place = some .directory) : d.Reaches place [] where
  short := nofun
  directory := by
    intro front hfront
    rw [List.prefix_nil.mp hfront]
    exact h

theorem Reaches.of_isPrefix (h : d.Reaches place names) (hmore : more <+: names) :
    d.Reaches place more where
  short := fun name hname => h.short name (hmore.subset hname)
  directory := fun front hfront => h.directory front (hfront.trans hmore)

theorem Clear.of_isPrefix (h : d.Clear place names) (hmore : more <+: names) :
    d.Clear place more where
  start := h.start
  short := fun name hname => h.short name (hmore.subset hname)
  noFile := fun front hfront => h.noFile front (hfront.trans hmore)

theorem reaches_cons_iff :
    d.Reaches place (name :: names) ↔
      d.standing? place = some .directory ∧ IsShort name ∧
        d.Reaches (follow place name) names := by
  constructor
  · intro h
    refine ⟨h.start, h.short name (List.mem_cons_self ..), ?_, ?_⟩
    · exact fun n hn => h.short n (List.mem_cons_of_mem name hn)
    · exact fun front hfront =>
        h.directory (name :: front) ((List.prefix_cons_inj name).mpr hfront)
  · rintro ⟨hplace, hshort, hrest⟩
    refine ⟨List.forall_mem_cons.mpr ⟨hshort, hrest.short⟩, ?_⟩
    intro front hfront
    rcases List.prefix_cons_iff.mp hfront with rfl | ⟨rest, rfl, hbelow⟩
    · exact hplace
    · exact hrest.directory rest hbelow

theorem Clear.tail (h : d.Clear place (name :: names))
    (hname : d.standing? (follow place name) = some .directory) :
    d.Clear (follow place name) names where
  start := hname
  short := fun n hn => h.short n (List.mem_cons_of_mem name hn)
  noFile := fun front hfront =>
    h.noFile (name :: front) ((List.prefix_cons_inj name).mpr hfront)

theorem Reaches.walk (h : d.Reaches place names) :
    d.walk place names = .ok (lead place names) := by
  induction names generalizing place with
  | nil => rfl
  | cons name rest ih =>
      obtain ⟨hplace, hshort, hrest⟩ := reaches_cons_iff.mp h
      have hstep := step_of_directory hplace hshort hrest.start
      rw [Disk.walk, hstep]
      exact ih hrest

theorem reaches_of_walk {place' : List String} (h : d.walk place names = .ok place')
    (hplace : d.standing? place' = some .directory) :
    place' = lead place names ∧ d.Reaches place names := by
  induction names generalizing place with
  | nil =>
      injection h with h
      subst h
      exact ⟨rfl, reaches_nil hplace⟩
  | cons name rest ih =>
      rw [Disk.walk] at h
      cases hstep : d.step place name with
      | error fault =>
          rw [hstep] at h
          cases h
      | ok next =>
          rw [hstep] at h
          obtain ⟨hdirectory, hshort, rfl⟩ := of_step_eq_ok hstep
          obtain ⟨hlead, hrest⟩ := ih h
          exact ⟨hlead, reaches_cons_iff.mpr ⟨hdirectory, hshort, hrest⟩⟩

/-- If no file is in the way, names are followed to the end or to a place where nothing is. -/
theorem Clear.walk (h : d.Clear place names) :
    d.Reaches place names ∨ d.walk place names = .error .notFound := by
  induction names generalizing place with
  | nil => exact Or.inl (reaches_nil h.start)
  | cons name rest ih =>
      have hshort : IsShort name := h.short name (List.mem_cons_self ..)
      cases hname : d.standing? (follow place name) with
      | none =>
          right
          rw [Disk.walk, step_of_none h.start hshort hname]
          rfl
      | some standing =>
          cases standing with
          | file content =>
              have hbelow : [name] <+: name :: rest := List.prefix_append [name] rest
              exact absurd hname (h.noFile [name] hbelow content)
          | directory =>
              rcases ih (h.tail hname) with hrest | hrest
              · exact Or.inl (reaches_cons_iff.mpr ⟨h.start, hshort, hrest⟩)
              · right
                rw [Disk.walk, step_of_directory h.start hshort hname]
                exact hrest

theorem reaches_concat_iff :
    d.Reaches place (names ++ [name]) ↔
      d.Reaches place names ∧ IsShort name ∧
        d.standing? (follow (lead place names) name) = some .directory := by
  constructor
  · intro h
    refine ⟨h.of_isPrefix (List.prefix_append _ _), h.short name (by simp), ?_⟩
    simpa using h.directory _ List.prefix_rfl
  · rintro ⟨h, hshort, hname⟩
    refine ⟨?_, ?_⟩
    · rw [List.forall_mem_append, List.forall_mem_singleton]
      exact ⟨h.short, hshort⟩
    · intro front hfront
      rcases List.prefix_concat_iff.mp hfront with rfl | hfront
      · simpa using hname
      · exact h.directory front hfront

/-- Dots behind the names change nothing. -/
theorem Reaches.append_dots (h : d.Reaches place names) (hdots : ∀ name ∈ more, name = ".") :
    d.Reaches place (names ++ more) := by
  induction more using List.reverseRecOn with
  | nil => simpa using h
  | append_singleton more dot ih =>
      rw [List.forall_mem_append, List.forall_mem_singleton] at hdots
      have hmore := ih hdots.1
      rw [← List.append_assoc, reaches_concat_iff, hdots.2]
      exact ⟨hmore, by decide, hmore.directory _ List.prefix_rfl⟩

end

/-! ## Resolving paths -/

section

variable {d : Disk} {p : Path} {init : List String} {last : String}

/-- The place that the path leads to. -/
def place (d : Disk) (p : Path) : List String :=
  lead (d.start p) p.names

/-- The last name of a path, unless it is dots. -/
def entryName? (last : String) : Option String :=
  if last = "." ∨ last = ".." then none else some last

theorem resolve_of_reaches (hpath : checkPath p = .ok ()) (hnames : p.names = init ++ [last])
    (hlast : IsShort last) (h : d.Reaches (d.start p) init) :
    d.resolve p = .ok (lead (d.start p) init, entryName? last) := by
  have hdirectory : d.isDirectoryAt (lead (d.start p) init) = true :=
    isDirectoryAt_iff.mpr (h.directory init List.prefix_rfl)
  rw [resolve, hpath, hnames]
  simp only [List.reverse_append, List.reverse_singleton, List.singleton_append,
    List.reverse_reverse, h.walk, entryName?]
  change (if _ then _ else _) = _
  rw [if_neg (by simp [hdirectory])]
  split
  · rfl
  · rw [if_neg (Nat.not_lt.mpr hlast)]

theorem resolve_of_walk_error {fault : DiskFault} (hpath : checkPath p = .ok ())
    (hnames : p.names = init ++ [last]) (h : d.walk (d.start p) init = .error fault) :
    d.resolve p = .error fault := by
  rw [resolve, hpath, hnames]
  simp only [List.reverse_append, List.reverse_singleton, List.singleton_append,
    List.reverse_reverse, h]
  rfl

/-- A path that is resolved has no names, or the directories above its last name are reached. -/
theorem of_resolve_eq_ok {target : List String × Option String} (h : d.resolve p = .ok target) :
    checkPath p = .ok () ∧
      (p.names = [] ∧ target = (d.start p, none) ∨
        ∃ init last, p.names = init ++ [last] ∧ IsShort last ∧ d.Reaches (d.start p) init ∧
          target = (lead (d.start p) init, entryName? last)) := by
  rw [resolve] at h
  cases hpath : checkPath p with
  | error fault =>
      rw [hpath] at h
      cases h
  | ok u =>
      refine ⟨rfl, ?_⟩
      rw [hpath] at h
      rcases List.eq_nil_or_concat' p.names with hnil | ⟨init, last, hnames⟩
      · -- a path without names leads to where it starts
        left
        rw [hnil] at h
        injection h with h
        exact ⟨hnil, h.symm⟩
      · right
        rw [hnames] at h
        simp only [List.reverse_append, List.reverse_singleton, List.singleton_append,
          List.reverse_reverse] at h
        cases hwalk : d.walk (d.start p) init with
        | error fault =>
            rw [hwalk] at h
            cases h
        | ok place =>
            rw [hwalk] at h
            change (if _ then _ else _) = _ at h
            split at h
            · cases h
            next hdirectory =>
              -- a directory is at the end of the walk, so there is one at every place before
              have hplace : d.standing? place = some .directory :=
                isDirectoryAt_iff.mp (by simpa using hdirectory)
              obtain ⟨rfl, hreaches⟩ := reaches_of_walk hwalk hplace
              refine ⟨init, last, hnames, ?_⟩
              unfold entryName?
              split at h
              · next hdots =>
                  injection h with h
                  rw [if_pos hdots]
                  refine ⟨?_, hreaches, h.symm⟩
                  rcases hdots with rfl | rfl <;> decide
              · next hdots =>
                  split at h
                  · cases h
                  · next hlong =>
                      injection h with h
                      rw [if_neg hdots]
                      exact ⟨Nat.le_of_not_lt hlong, hreaches, h.symm⟩

/-- A path that is resolved to an entry ends in its name, which leads down to it. -/
theorem of_resolve_eq_entry {above : List String} {name : String}
    (h : d.resolve p = .ok (above, some name)) :
    checkPath p = .ok () ∧ ∃ init, p.names = init ++ [name] ∧ IsDown name ∧ IsShort name ∧
      d.Reaches (d.start p) init ∧ above = lead (d.start p) init := by
  obtain ⟨hpath, ⟨_, htarget⟩ | ⟨init, last, hnames, hshort, hreaches, htarget⟩⟩ :=
    of_resolve_eq_ok h
  · cases htarget
  · injection htarget with habove hname
    unfold entryName? at hname
    split at hname
    · cases hname
    next hdown =>
    injection hname with hname
    subst hname
    exact ⟨hpath, init, hnames, not_or.mp hdown, hshort, hreaches, habove⟩

end

end Stubsmith.Disk
