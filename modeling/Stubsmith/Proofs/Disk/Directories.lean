import Stubsmith.Disk.Write
import Stubsmith.Proofs.Disk.Walking
import Stubsmith.Proofs.Path.Ancestors

/-!
# Making directories

Making a directory with all that is missing above it changes a disk at places of the path only, and
only to directories where nothing stood before, whether or not it succeeds
(`Disk.makeDirectories_grows`). It succeeds if no file is in the way (`Disk.Clear.makeDirectories`),
and where the directory is already there it changes nothing (`Disk.makeDirectories_of_reaches`).
-/

namespace Stubsmith.Disk

/-! ## Disks that have grown -/

/-- The second disk is the first one with new directories at places along the names. -/
structure Grows (d d' : Disk) (place names : List String) : Prop where
  workingDirectory : d'.workingDirectory = d.workingDirectory
  standing? : ∀ other, d'.standing? other = d.standing? other ∨
    d.standing? other = none ∧ d'.standing? other = some .directory ∧
      ∃ front, front <+: names ∧ other = lead place front

section

variable {d d' d'' : Disk} {place names more : List String} {p q : Path}

theorem Grows.refl (d : Disk) (place names : List String) : d.Grows d place names :=
  ⟨rfl, fun _ => Or.inl rfl⟩

theorem Grows.trans (h : d.Grows d' place names) (h' : d'.Grows d'' place names) :
    d.Grows d'' place names where
  workingDirectory := h'.workingDirectory.trans h.workingDirectory
  standing? := by
    intro other
    rcases h'.standing? other with hsame' | ⟨hnone', hdirectory', hplace'⟩
    · rcases h.standing? other with hsame | ⟨hnone, hdirectory, hplace⟩
      · exact Or.inl (hsame'.trans hsame)
      · exact Or.inr ⟨hnone, hsame'.trans hdirectory, hplace⟩
    · rcases h.standing? other with hsame | ⟨hnone, hdirectory, hplace⟩
      · exact Or.inr ⟨hsame ▸ hnone', hdirectory', hplace'⟩
      · rw [hdirectory] at hnone'
        cases hnone'

theorem Grows.mono (h : d.Grows d' place more) (hmore : more <+: names) :
    d.Grows d' place names where
  workingDirectory := h.workingDirectory
  standing? := by
    intro other
    rcases h.standing? other with hsame | ⟨hnone, hdirectory, front, hfront, hplace⟩
    · exact Or.inl hsame
    · exact Or.inr ⟨hnone, hdirectory, front, hfront.trans hmore, hplace⟩

theorem Grows.start_eq (h : d.Grows d' place names) (p : Path) : d'.start p = d.start p := by
  rw [start, start, h.workingDirectory]

/-- Directories stay directories. -/
theorem Grows.directory (h : d.Grows d' place names) {other : List String}
    (hother : d.standing? other = some .directory) : d'.standing? other = some .directory := by
  rcases h.standing? other with hsame | ⟨_, hdirectory, _⟩
  · exact hsame.trans hother
  · exact hdirectory

/-- Files stay as they are, and there are no new ones. -/
theorem Grows.file_iff (h : d.Grows d' place names) (other : List String) (content : ByteArray) :
    d'.standing? other = some (.file content) ↔ d.standing? other = some (.file content) := by
  rcases h.standing? other with hsame | ⟨hnone, hdirectory, _⟩
  · rw [hsame]
  · simp [hnone, hdirectory]

theorem Grows.reaches (h : d.Grows d' place names) {other : List String}
    (hreaches : d.Reaches other more) : d'.Reaches other more where
  short := hreaches.short
  directory := fun front hfront => h.directory (hreaches.directory front hfront)

theorem Grows.clear (h : d.Grows d' place names) {other : List String}
    (hclear : d.Clear other more) : d'.Clear other more where
  start := h.directory hclear.start
  short := hclear.short
  noFile := fun front hfront content hfile =>
    hclear.noFile front hfront content ((h.file_iff _ content).mp hfile)

theorem start_eq_of_isAbsolute (d : Disk) (h : q.isAbsolute = p.isAbsolute) :
    d.start q = d.start p := by
  rw [start, start, h]

/-! ## One directory -/

theorem isLeaf_directory_nil : (Tree.directory []).IsLeaf :=
  fun _ => rfl

theorem isDirectory_of_reaches (hpath : checkPath p = .ok ())
    (h : d.Reaches (d.start p) p.names) : d.isDirectory p = true := by
  rw [isDirectory, hpath, h.walk]
  exact isDirectoryAt_iff.mpr (h.directory p.names List.prefix_rfl)

theorem reaches_of_isDirectory (h : d.isDirectory p = true) : d.Reaches (d.start p) p.names := by
  unfold isDirectory at h
  split at h
  · cases h
  · split at h
    · cases h
    · next hwalk => exact (reaches_of_walk hwalk (isDirectoryAt_iff.mp h)).2

/-- An empty directory that is put where nothing stood. -/
theorem grows_put {init : List String} {name : String} (hdown : IsDown name)
    (hreaches : d.Reaches place init) (hnone : d.standing? (lead place init ++ [name]) = none) :
    d.Grows (d.put (lead place init ++ [name]) (.directory [])) place (init ++ [name]) where
  workingDirectory := rfl
  standing? := by
    intro other
    have hfree : d.standing? (lead place init ++ [name]) ≠ some .directory := by
      rw [hnone]
      simp
    rw [standing?_put isLeaf_directory_nil (hreaches.directory init List.prefix_rfl) hfree]
    split
    · next hother =>
        refine Or.inr ⟨hother ▸ hnone, rfl, init ++ [name], List.prefix_rfl, ?_⟩
        rw [hother, lead_append, lead_cons, lead_nil, follow_of_isDown hdown]
    · exact Or.inl rfl

theorem of_makeDirectory_eq_ok (h : d.makeDirectory p = .ok d') :
    ∃ init name, p.names = init ++ [name] ∧ IsDown name ∧ IsShort name ∧
      d.Reaches (d.start p) init ∧ d.standing? (lead (d.start p) init ++ [name]) = none ∧
      d' = d.put (lead (d.start p) init ++ [name]) (.directory []) := by
  unfold makeDirectory at h
  cases hresolve : d.resolve p with
  | error fault =>
      rw [hresolve] at h
      cases h
  | ok target =>
      rw [hresolve] at h
      obtain ⟨place, _ | name⟩ := target
      · cases h
      obtain ⟨_, init, hnames, hdown, hshort, hreaches, rfl⟩ := of_resolve_eq_entry hresolve
      change (if _ then _ else _) = _ at h
      split at h
      · cases h
      next hnone =>
      injection h with h
      rw [isSome_at?_iff, not_not] at hnone
      exact ⟨init, name, hnames, hdown, hshort, hreaches, hnone, h.symm⟩

/-- When a directory is there or was made, the disk has grown and reaches it. -/
theorem ensureDirectory_grows (h : d.ensureDirectory p = .ok d') :
    d.Grows d' (d.start p) p.names ∧ d'.Reaches (d.start p) p.names := by
  unfold ensureDirectory at h
  split at h
  · next made hmade =>
      injection h with h
      subst h
      obtain ⟨init, name, hnames, hdown, hshort, hreaches, hnone, rfl⟩ :=
        of_makeDirectory_eq_ok hmade
      have hgrows := grows_put hdown hreaches hnone
      rw [hnames]
      refine ⟨hgrows, reaches_concat_iff.mpr ⟨hgrows.reaches hreaches, hshort, ?_⟩⟩
      have hfree : d.standing? (lead (d.start p) init ++ [name]) ≠ some .directory := by
        rw [hnone]
        simp
      rw [follow_of_isDown hdown, standing?_put isLeaf_directory_nil
        (hreaches.directory init List.prefix_rfl) hfree, if_pos rfl]
      rfl
  · split at h
    · next hthere =>
        injection h with h
        subst h
        exact ⟨Grows.refl d _ _, reaches_of_isDirectory hthere.2⟩
    · cases h

/-- A directory is found or made only if there is one where its path starts. -/
theorem start_of_ensureDirectory_eq_ok (h : d.ensureDirectory p = .ok d') :
    d.standing? (d.start p) = some .directory := by
  unfold ensureDirectory at h
  split at h
  · next made hmade =>
      obtain ⟨init, name, _, _, _, hreaches, _⟩ := of_makeDirectory_eq_ok hmade
      exact hreaches.start
  · split at h
    · next hthere => exact (reaches_of_isDirectory hthere.2).start
    · cases h

/-- A directory that is there is found, and nothing is made. -/
theorem ensureDirectory_of_reaches (hpath : checkPath p = .ok ())
    (h : d.Reaches (d.start p) p.names) : d.ensureDirectory p = .ok d := by
  have hexists : d.makeDirectory p = .error .alreadyExists := by
    rcases List.eq_nil_or_concat' p.names with hnil | ⟨init, last, hnames⟩
    · rw [makeDirectory, resolve, hpath, hnil]
      rfl
    · have hconcat := h
      rw [hnames, reaches_concat_iff] at hconcat
      obtain ⟨hinit, hshort, hdirectory⟩ := hconcat
      rw [makeDirectory, resolve_of_reaches hpath hnames hshort hinit, entryName?]
      by_cases hdots : last = "." ∨ last = ".."
      · rw [if_pos hdots]
        rfl
      · rw [follow_of_isDown (not_or.mp hdots)] at hdirectory
        rw [if_neg hdots]
        exact if_pos (by simp [isSome_at?_iff, hdirectory])
  unfold ensureDirectory
  rw [hexists]
  exact if_pos ⟨rfl, isDirectory_of_reaches hpath h⟩

/-- A directory of which the ones above are reached can be made or is there, unless it is a file. -/
theorem exists_ensureDirectory_eq_ok {init : List String} {last : String}
    (hpath : checkPath p = .ok ()) (hnames : p.names = init ++ [last])
    (hinit : d.Reaches (d.start p) init) (hclear : d.Clear (d.start p) p.names) :
    ∃ d', d.ensureDirectory p = .ok d' := by
  have hshort : IsShort last := hclear.short last (by simp [hnames])
  have hplace : d.standing? (lead (d.start p) init) = some .directory :=
    hinit.directory init List.prefix_rfl
  have hthere (h : d.standing? (follow (lead (d.start p) init) last) = some .directory) :
      ∃ d', d.ensureDirectory p = .ok d' := by
    have hreaches : d.Reaches (d.start p) p.names := by
      rw [hnames]
      exact reaches_concat_iff.mpr ⟨hinit, hshort, h⟩
    exact ⟨d, ensureDirectory_of_reaches hpath hreaches⟩
  by_cases hdots : last = "." ∨ last = ".."
  · -- dots are never made, but lead to a directory
    refine hthere ?_
    rcases hdots with rfl | rfl
    · exact hplace
    · exact standing?_dropLast hplace
  · have hfollow := follow_of_isDown (not_or.mp hdots) (lead (d.start p) init)
    cases hstanding : d.standing? (lead (d.start p) init ++ [last]) with
    | none =>
        have hmake : d.makeDirectory p
            = .ok (d.put (lead (d.start p) init ++ [last]) (.directory [])) := by
          rw [makeDirectory, resolve_of_reaches hpath hnames hshort hinit, entryName?,
            if_neg hdots]
          exact if_neg (by simp [isSome_at?_iff, hstanding])
        unfold ensureDirectory
        rw [hmake]
        exact ⟨_, rfl⟩
    | some standing =>
        cases standing with
        | directory => exact hthere (hfollow ▸ hstanding)
        | file content =>
            have hnot := hclear.noFile p.names List.prefix_rfl content
            rw [hnames, lead_append, lead_cons, lead_nil, hfollow] at hnot
            exact absurd hstanding hnot

/-- If no file is in the way, a directory can be made, is there, or lacks one above it. -/
theorem Clear.ensureDirectory (hclear : d.Clear (d.start p) p.names)
    (hpath : checkPath p = .ok ()) (hne : p.names ≠ []) :
    (∃ d', d.ensureDirectory p = .ok d') ∨ d.ensureDirectory p = .error .notFound := by
  obtain ⟨init, last, hnames⟩ := (List.eq_nil_or_concat' p.names).resolve_left hne
  have hinit : d.Clear (d.start p) init :=
    hclear.of_isPrefix (hnames ▸ List.prefix_append init [last])
  rcases hinit.walk with hreaches | hwalk
  · exact Or.inl (exists_ensureDirectory_eq_ok hpath hnames hreaches hclear)
  · right
    unfold Disk.ensureDirectory makeDirectory
    rw [resolve_of_walk_error hpath hnames hwalk]
    rfl

/-! ## All that is missing -/

theorem ensureAll_grows {missing : List Path} {target : Path}
    (h : ∀ q ∈ missing, q.names <+: target.names ∧ q.isAbsolute = target.isAbsolute) :
    d.Grows (d.ensureAll missing).1 (d.start target) target.names := by
  induction missing generalizing d with
  | nil => exact Grows.refl d _ _
  | cons q rest ih =>
      rw [List.forall_mem_cons] at h
      rw [ensureAll]
      cases hq : d.ensureDirectory q with
      | error fault => exact Grows.refl d _ _
      | ok made =>
          have hgrows := (ensureDirectory_grows hq).1
          rw [start_eq_of_isAbsolute d h.1.2] at hgrows
          have hmade := hgrows.mono h.1.1
          have hrest := ih (d := made) h.2
          rw [hmade.start_eq] at hrest
          exact hmade.trans hrest

theorem ensureUpwards_grows {missing above : List Path} {target : Path}
    (hmissing : ∀ q ∈ missing, q.names <+: target.names ∧ q.isAbsolute = target.isAbsolute)
    (habove : ∀ q ∈ above, q.names <+: target.names ∧ q.isAbsolute = target.isAbsolute) :
    d.Grows (d.ensureUpwards missing above).1 (d.start target) target.names := by
  induction above generalizing missing with
  | nil => exact ensureAll_grows hmissing
  | cons q rest ih =>
      rw [List.forall_mem_cons] at habove
      rw [ensureUpwards]
      split
      · exact ensureAll_grows hmissing
      · split
        · next made hq =>
            have hgrows := (ensureDirectory_grows hq).1
            rw [start_eq_of_isAbsolute d habove.1.2] at hgrows
            have hmade := hgrows.mono habove.1.1
            have hrest := ensureAll_grows (d := made) hmissing
            rw [hmade.start_eq] at hrest
            exact hmade.trans hrest
        · exact ih (List.forall_mem_cons.mpr ⟨habove.1, hmissing⟩) habove.2
        · exact Grows.refl d _ _

/-- Whatever comes of it, making a directory with all that is missing above it lets the disk grow
along the path. -/
theorem makeDirectories_grows (d : Disk) (p : Path) :
    d.Grows (d.makeDirectories p).1 (d.start p) p.names :=
  ensureUpwards_grows nofun fun _ hq => Path.names_isPrefix_of_mem_ancestorsUpTo hq

/-- Directories are made only if there is one where their paths start. -/
theorem ensureAll_unchanged_or_start {missing : List Path} {target : Path}
    (habsolute : ∀ q ∈ missing, q.isAbsolute = target.isAbsolute)
    (h : d.ensureAll missing = (d', .ok ())) :
    d' = d ∨ d.standing? (d.start target) = some .directory := by
  cases missing with
  | nil =>
      injection h with h
      exact Or.inl h.symm
  | cons q rest =>
      rw [ensureAll] at h
      cases hq : d.ensureDirectory q with
      | error fault =>
          rw [hq] at h
          cases h
      | ok made =>
          right
          rw [← start_eq_of_isAbsolute d (habsolute q (List.mem_cons_self ..))]
          exact start_of_ensureDirectory_eq_ok hq

theorem ensureUpwards_unchanged_or_start {missing above : List Path} {target : Path}
    (hmissing : ∀ q ∈ missing, q.isAbsolute = target.isAbsolute)
    (habove : ∀ q ∈ above, q.isAbsolute = target.isAbsolute)
    (h : d.ensureUpwards missing above = (d', .ok ())) :
    d' = d ∨ d.standing? (d.start target) = some .directory := by
  induction above generalizing missing with
  | nil => exact ensureAll_unchanged_or_start hmissing h
  | cons q rest ih =>
      rw [List.forall_mem_cons] at habove
      rw [ensureUpwards] at h
      split at h
      · exact ensureAll_unchanged_or_start hmissing h
      · split at h
        · next made hq =>
            right
            rw [← start_eq_of_isAbsolute d habove.1]
            exact start_of_ensureDirectory_eq_ok hq
        · exact ih (List.forall_mem_cons.mpr ⟨habove.1, hmissing⟩) habove.2 h
        · cases h

theorem makeDirectories_unchanged_or_start (h : d.makeDirectories p = (d', .ok ())) :
    d' = d ∨ d.standing? (d.start p) = some .directory :=
  ensureUpwards_unchanged_or_start (fun _ hq => absurd hq List.not_mem_nil)
    (fun _ hq => (Path.names_isPrefix_of_mem_ancestorsUpTo hq).2) h

/-- The directories in the list complete the path on every disk that reaches the names before
them and has no file in the way. -/
def Completes (missing : List Path) (p : Path) (reached : List String) : Prop :=
  ∀ d : Disk, d.Clear (d.start p) p.names → d.Reaches (d.start p) reached →
    ∃ d', d.ensureAll missing = (d', .ok ()) ∧ d'.Reaches (d.start p) p.names

theorem completes_nil (p : Path) : Completes [] p p.names :=
  fun d _ hreaches => ⟨d, rfl, hreaches⟩

theorem Completes.cons {missing : List Path} (h : Completes missing p q.names)
    (hq : q.names <+: p.names) (habsolute : q.isAbsolute = p.isAbsolute)
    (hpath : checkPath q = .ok ()) {dots : List String} {last : String}
    (hnames : q.names = more ++ dots ++ [last]) (hdots : ∀ name ∈ dots, name = ".") :
    Completes (q :: missing) p more := by
  intro d hclear hreaches
  rw [← start_eq_of_isAbsolute d habsolute] at hclear hreaches ⊢
  obtain ⟨made, hmade⟩ := exists_ensureDirectory_eq_ok hpath hnames (hreaches.append_dots hdots)
    (hclear.of_isPrefix hq)
  obtain ⟨hgrows, hq⟩ := ensureDirectory_grows hmade
  have hstart : made.start p = d.start q := by
    rw [hgrows.start_eq, start_eq_of_isAbsolute d habsolute]
  have hrest := h made (hstart ▸ hgrows.clear hclear) (hstart ▸ hq)
  rw [hstart] at hrest
  rw [ensureAll, hmade]
  exact hrest

/-- The text of a parent is no longer than that of the path and has no other characters. -/
theorem checkPath_of_text {rest : String} (hpath : checkPath q = .ok ())
    (htext : q.text = p.text ++ rest) : isBase p = true ∨ checkPath p = .ok () := by
  by_cases hempty : p.text.isEmpty = true
  · left
    rw [isBase, hempty]
    rfl
  right
  unfold checkPath at hpath ⊢
  rw [htext] at hpath
  split at hpath
  · cases hpath
  next hnull =>
  split at hpath
  · cases hpath
  split at hpath
  · cases hpath
  next hlong =>
  have hsize : ¬ pathLimit ≤ p.text.utf8ByteSize := by
    rw [String.utf8ByteSize_append] at hlong
    omega
  have hchars : ¬ p.text.toList.contains '\x00' = true := by
    simp only [String.toList_append, List.contains_iff_mem, List.mem_append, not_or] at hnull ⊢
    exact hnull.1
  rw [if_neg hchars, if_neg hempty, if_neg hsize]

/-- Where there is no parent the path is completed at once. -/
theorem exists_ensureUpwards_of_base {missing : List Path} (fuel : Nat)
    (hclear : d.Clear (d.start p) p.names) (hcompletes : Completes missing p q.names)
    (hparent : q.parent? = none) :
    ∃ d', d.ensureUpwards missing (q.ancestorsUpTo fuel) = (d', .ok ()) ∧
      d'.Reaches (d.start p) p.names := by
  have hbase : isBase q = true := by simp [isBase, hparent]
  have hreaches : d.Reaches (d.start p) q.names :=
    (reaches_nil hclear.start).append_dots (Path.eq_dot_of_parent?_eq_none hparent)
  rw [Path.ancestorsUpTo_of_parent?_eq_none hparent, ensureUpwards, if_pos hbase]
  exact hcompletes d hclear hreaches

/-- Going up the ancestors ends at one that is there or can be made, and from there the path is
completed: every ancestor that is passed over is one more directory to complete it with. -/
theorem exists_ensureUpwards_eq_ok {missing : List Path} {fuel : Nat}
    (hclear : d.Clear (d.start p) p.names) (hcompletes : Completes missing p q.names)
    (hq : q.names <+: p.names) (habsolute : q.isAbsolute = p.isAbsolute)
    (hpath : isBase q = true ∨ checkPath q = .ok ()) (htrimmed : q.parent? = none ∨ q.IsTrimmed)
    (hfuel : q.names.length ≤ fuel) :
    ∃ d', d.ensureUpwards missing (q.ancestorsUpTo fuel) = (d', .ok ()) ∧
      d'.Reaches (d.start p) p.names := by
  induction fuel generalizing q missing with
  | zero =>
      cases hparent : q.parent? with
      | none => exact exists_ensureUpwards_of_base 0 hclear hcompletes hparent
      | some parent =>
          have hrelation := Path.isParent_of_parent?_eq_some hparent
          obtain ⟨dots, last, behind, hnames, _⟩ := hrelation.names
          rw [hnames] at hfuel
          simp at hfuel
  | succ fuel ih =>
      cases hparent : q.parent? with
      | none => exact exists_ensureUpwards_of_base (fuel + 1) hclear hcompletes hparent
      | some parent =>
          have hrelation := Path.isParent_of_parent?_eq_some hparent
          obtain ⟨dots, last, behind, hnames, hdots, _, hbehind⟩ := hrelation.names
          have hbehind := hbehind (htrimmed.resolve_left (by rw [hparent]; simp))
          rw [hbehind, List.append_nil] at hnames
          have hne : q.names ≠ [] := by simp [hnames]
          have hbase : ¬ isBase q = true := by
            simp only [isBase, hparent, Option.isNone_some, Bool.or_false, String.isEmpty_iff]
            exact fun htext => hne (Path.names_of_text_eq_empty htext)
          have hpath := hpath.resolve_left hbase
          have hstart := start_eq_of_isAbsolute d habsolute
          have hqclear : d.Clear (d.start q) q.names := by
            rw [hstart]
            exact hclear.of_isPrefix hq
          rw [Path.ancestorsUpTo, hparent]
          simp only
          rw [ensureUpwards, if_neg hbase]
          rcases hqclear.ensureDirectory hpath hne with ⟨made, hmade⟩ | hmissing
          · -- this ancestor is there, and the ones passed over are made on the way down
            obtain ⟨hgrows, hreaches⟩ := ensureDirectory_grows hmade
            rw [hmade]
            have hpstart : made.start p = d.start p := hgrows.start_eq p
            rw [← hpstart] at hclear ⊢
            rw [hstart, ← hpstart] at hreaches
            exact hcompletes made (hgrows.clear hclear) hreaches
          · -- one above it is missing, so it is passed over
            rw [hmissing]
            obtain ⟨rest, htext⟩ := hrelation.text
            have hbelow : parent.names <+: q.names := by
              rw [hnames, List.append_assoc]
              exact List.prefix_append _ _
            refine ih (hcompletes.cons hq habsolute hpath hnames hdots) (hbelow.trans hq)
              (hrelation.isAbsolute.trans habsolute) (checkPath_of_text hpath htext)
              hrelation.trimmed ?_
            rw [hnames] at hfuel
            simp only [List.length_append, List.length_singleton] at hfuel
            omega

/-- If no file is in the way, a directory is made with all that is missing above it. -/
theorem Clear.makeDirectories (hclear : d.Clear (d.start p) p.names)
    (hpath : isBase p = true ∨ checkPath p = .ok ())
    (htrimmed : p.parent? = none ∨ p.IsTrimmed) :
    ∃ d', d.makeDirectories p = (d', .ok ()) ∧ d'.Reaches (d.start p) p.names := by
  have hfuel : p.names.length ≤ p.segments.length + 1 :=
    (List.length_filter_le _ _).trans (Nat.le_succ _)
  exact exists_ensureUpwards_eq_ok hclear (completes_nil p) List.prefix_rfl rfl hpath htrimmed hfuel

/-- Where all directories are there, none is made. -/
theorem makeDirectories_of_reaches (hpath : isBase p = true ∨ checkPath p = .ok ())
    (h : d.Reaches (d.start p) p.names) : d.makeDirectories p = (d, .ok ()) := by
  obtain ⟨above, hancestors⟩ : ∃ above, p.ancestors = p :: above := by
    rw [Path.ancestors, Path.ancestorsUpTo]
    split
    · exact ⟨[], rfl⟩
    · exact ⟨_, rfl⟩
  rw [makeDirectories, hancestors, ensureUpwards]
  by_cases hbase : isBase p = true
  · rw [if_pos hbase]
    rfl
  · rw [if_neg hbase, ensureDirectory_of_reaches (hpath.resolve_left hbase) h]
    rfl

end

end Stubsmith.Disk
