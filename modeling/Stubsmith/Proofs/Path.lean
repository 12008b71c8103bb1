import Stubsmith.Path
import Stubsmith.Proofs.Text

/-!
# Components of paths

The components of a path are the steps that it takes on a disk: to the root, to the directory it
starts in, up, or down to a name. Empty segments and dots behind the first segment are no steps.
Joining a path with names of entries adds these names to its components and does nothing else
(`Path.components_front_append`, `Path.segments_ofPackage`).
-/

namespace Stubsmith

/-! ## Components -/

/-- One step of a path. -/
inductive Component where
  | root
  | current
  | parent
  | normal (name : String)
  deriving DecidableEq, Repr

namespace Component

/-- The step for a segment behind the first one. -/
def ofSegment? (segment : String) : Option Component :=
  if segment = "" ∨ segment = "." then none
  else if segment = ".." then some .parent
  else some (.normal segment)

/-- The step for the first segment. -/
def ofFirst (segment : String) : Option Component :=
  if segment = "" then some .root
  else if segment = "." then some .current
  else ofSegment? segment

/-- The name that is stepped down to. -/
def name? : Component → Option String
  | normal name => some name
  | _ => none

end Component

/-- Names are known from the steps down to them. -/
@[simp] theorem filterMap_name? (names : List String) :
    (names.map Component.normal).filterMap Component.name? = names := by
  induction names with
  | nil => rfl
  | cons name rest ih => simp [Component.name?, ih]

/-- A name that an entry of a directory can have: it is one step down, however it is used. -/
structure IsEntryName (name : String) : Prop where
  ne_empty : name ≠ ""
  ne_dot : name ≠ "."
  ne_dots : name ≠ ".."
  slash_not_mem : '/' ∉ name.toList
  null_not_mem : '\x00' ∉ name.toList

theorem IsEntryName.ofSegment? {name : String} (h : IsEntryName name) :
    Component.ofSegment? name = some (.normal name) := by
  simp [Component.ofSegment?, h.ne_empty, h.ne_dot, h.ne_dots]

theorem IsEntryName.ofFirst {name : String} (h : IsEntryName name) :
    Component.ofFirst name = some (.normal name) := by
  simp [Component.ofFirst, h.ne_empty, h.ne_dot, h.ofSegment?]

/-- Names of entries are as many steps down. -/
theorem filterMap_ofSegment? {names : List String} (h : ∀ name ∈ names, IsEntryName name) :
    names.filterMap Component.ofSegment? = names.map .normal := by
  rw [← List.filterMap_eq_map']
  exact List.filterMap_congr fun name hname => (h name hname).ofSegment?

namespace Path

/-- The steps of the path, in order. -/
def components (p : Path) : List Component :=
  match p.segments with
  | [] => []
  | [""] => []
  | first :: rest => (Component.ofFirst first).toList ++ rest.filterMap Component.ofSegment?

theorem components_cons {first : String} {rest : List String} (h : first = "" → rest ≠ []) :
    (⟨first :: rest⟩ : Path).components
      = (Component.ofFirst first).toList ++ rest.filterMap Component.ofSegment? := by
  unfold components
  split
  · next heq => cases heq
  · next heq =>
      injection heq with hfirst hrest
      exact absurd hrest (h hfirst)
  · next heq =>
      injection heq with hfirst hrest
      rw [hfirst, hrest]

/-- Names alone are as many steps down. -/
theorem components_of_names {names : List String} (h : ∀ name ∈ names, IsEntryName name) :
    (⟨names⟩ : Path).components = names.map .normal := by
  cases names with
  | nil => rfl
  | cons first rest =>
      have hfirst := h first (List.mem_cons_self ..)
      have hrest : ∀ name ∈ rest, IsEntryName name :=
        fun name hname => h name (List.mem_cons_of_mem first hname)
      rw [components_cons fun hempty => absurd hempty hfirst.ne_empty, hfirst.ofFirst,
        filterMap_ofSegment? hrest]
      rfl

/-- Names behind other segments are further steps down. -/
theorem components_cons_append {first : String} {rest names : List String} (hne : names ≠ [])
    (h : ∀ name ∈ names, IsEntryName name) :
    (⟨first :: rest ++ names⟩ : Path).components
      = (Component.ofFirst first).toList ++ rest.filterMap Component.ofSegment?
        ++ names.map .normal := by
  have hrest : first = "" → rest ++ names ≠ [] :=
    fun _ => List.append_ne_nil_of_right_ne_nil rest hne
  rw [List.cons_append, components_cons hrest, List.filterMap_append, filterMap_ofSegment? h,
    List.append_assoc]

/-! ## Joining -/

/-- The segments to which others are added when something is joined to the path: a slash at its end
is not doubled. -/
def front (p : Path) : List String :=
  if p.segments.getLast? = some "" then p.segments.dropLast else p.segments

@[simp] theorem front_slash (init : List String) : (⟨init ++ [""]⟩ : Path).front = init := by
  simp [front]

theorem front_of_ne {last : String} (h : last ≠ "") (init : List String) :
    (⟨init ++ [last]⟩ : Path).front = init ++ [last] := by
  rw [front, if_neg (by simpa using h)]

/-- Joining a path that does not start at the root. -/
theorem join_eq (base : Path) {tail : Path} (h : tail.isAbsolute = false) :
    base.join tail = ⟨base.front ++ tail.segments⟩ := by
  rw [join, if_neg (by simp [h]), front]
  rcases List.eq_nil_or_concat' base.segments with hnil | ⟨init, last, hlast⟩
  · simp [hnil]
  · by_cases hempty : last = ""
    · simp [hlast, hempty]
    · simp [hlast, hempty]

/-- A path whose segments are names does not start at the root. -/
theorem isAbsolute_of_names {names : List String} (h : ∀ name ∈ names, IsEntryName name) :
    (⟨names⟩ : Path).isAbsolute = false := by
  cases names with
  | nil => rfl
  | cons first rest =>
      have hfirst := (h first (List.mem_cons_self ..)).ne_empty
      unfold isAbsolute
      split
      · next heq =>
          injection heq with heq _
          exact absurd heq hfirst
      · rfl

/-- A path behind which names have been joined ends in the last of them. -/
theorem front_append {front names : List String} (hne : names ≠ [])
    (h : ∀ name ∈ names, IsEntryName name) : (⟨front ++ names⟩ : Path).front = front ++ names := by
  have hlast : (front ++ names).getLast? ≠ some "" := by
    rw [List.getLast?_append_of_ne_nil _ hne]
    intro hempty
    exact (h "" (List.mem_of_getLast? hempty)).ne_empty rfl
  rw [Path.front, if_neg hlast]

/-- Names joined to a path are added to its steps. -/
theorem components_front_append (base : Path) {names : List String} (hne : names ≠ [])
    (h : ∀ name ∈ names, IsEntryName name) :
    (⟨base.front ++ names⟩ : Path).components = base.components ++ names.map .normal := by
  obtain ⟨segments⟩ := base
  rcases List.eq_nil_or_concat' segments with rfl | ⟨init, last, rfl⟩
  · exact components_of_names h
  by_cases hlast : last = ""
  · -- an empty last segment gives way, and is no step itself
    subst hlast
    rw [front_slash]
    cases init with
    | nil => exact components_of_names h
    | cons first rest =>
        have hrest : first = "" → rest ++ [""] ≠ [] := fun _ => by simp
        rw [components_cons_append hne h, List.cons_append, components_cons hrest,
          List.filterMap_append]
        simp [Component.ofSegment?]
  · rw [front_of_ne hlast]
    cases init with
    | nil =>
        have hrest : last = "" → ([] : List String) ≠ [] := fun hempty => absurd hempty hlast
        rw [List.nil_append, components_cons_append hne h, components_cons hrest]
    | cons first rest =>
        have hrest : first = "" → rest ++ [last] ≠ [] := fun _ => by simp
        rw [List.cons_append, components_cons_append hne h, components_cons hrest]

/-- The path of one name. -/
theorem ofText_of_isEntryName {name : String} (h : IsEntryName name) : ofText name = ⟨[name]⟩ := by
  rw [ofText, Text.split_of_not_mem h.slash_not_mem]

/-- Joining one name. -/
theorem join_ofText (base : Path) {name : String} (h : IsEntryName name) :
    base.join (ofText name) = ⟨base.front ++ [name]⟩ := by
  rw [ofText_of_isEntryName h]
  exact join_eq base (isAbsolute_of_names fun n hn => List.mem_singleton.mp hn ▸ h)

/-- Joining names one after another. -/
theorem foldl_join_ofText (base : Path) {names : List String} (hne : names ≠ [])
    (h : ∀ name ∈ names, IsEntryName name) :
    names.foldl (fun p name => p.join (ofText name)) base = ⟨base.front ++ names⟩ := by
  induction names generalizing base with
  | nil => exact absurd rfl hne
  | cons name rest ih =>
      have hname := h name (List.mem_cons_self ..)
      have hrest : ∀ n ∈ rest, IsEntryName n := fun n hn => h n (List.mem_cons_of_mem name hn)
      rw [List.foldl_cons, join_ofText base hname]
      by_cases hnil : rest = []
      · rw [hnil]
        rfl
      · have hsingle : ∀ n ∈ [name], IsEntryName n := fun n hn => List.mem_singleton.mp hn ▸ hname
        rw [ih _ hnil hrest, front_append (List.cons_ne_nil name []) hsingle, List.append_assoc,
          List.singleton_append]

/-- The directories of a package whose pieces are names. -/
theorem ofPackage_eq {package : String} (h : ∀ name ∈ Text.split '.' package, IsEntryName name) :
    ofPackage package = ⟨Text.split '.' package⟩ := by
  have hfilter : (Text.split '.' package).filter (· ≠ "") = Text.split '.' package := by
    rw [List.filter_eq_self]
    intro name hname
    simpa using (h name hname).ne_empty
  rw [ofPackage, hfilter, foldl_join_ofText empty (Text.split_ne_nil '.' package) h]
  rfl

end Path

end Stubsmith
