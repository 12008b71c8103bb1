import Stubsmith.Proofs.Disk.Directories

/-!
# Writing a file

A file can be written if its path is well-formed, no file is on the way and no directory in its
place (`Disk.Admits`). Then and only then is it written, and all that changes is the file and the
directories along its path (`Disk.of_writeFile_eq_ok`, `Disk.Admits.exists_written`). Written once
more it changes nothing (`Disk.Written.writeFile_again`). So one file does not prevent another one
from being written unless one lies on the way to the other (`Disk.Admits.of_written`).
-/

namespace Stubsmith.Disk

/-- Nothing prevents a file from being written at the path: `above` are the names of the directories
and `name` is the one of the file. -/
structure Admits (d : Disk) (p : Path) (above : List String) (name : String) : Prop where
  path : checkPath p = .ok ()
  slash : p.endsInSlash = false
  names : p.names = above ++ [name]
  down : IsDown name
  short : IsShort name
  clear : d.Clear (d.start p) above
  notDirectory : d.standing? (lead (d.start p) above ++ [name]) ≠ some .directory
  notOnWay : ∀ front, front <+: above →
    lead (d.start p) front ≠ lead (d.start p) above ++ [name]

/-- The second disk is the first one with the directories along the path and the file. -/
structure Written (d d' : Disk) (p : Path) (above : List String) (name : String)
    (content : String) : Prop where
  workingDirectory : d'.workingDirectory = d.workingDirectory
  reaches : d'.Reaches (d.start p) above
  file : d'.standing? (lead (d.start p) above ++ [name]) = some (.file content.toUTF8)
  other : ∀ other, other ≠ lead (d.start p) above ++ [name] →
    d'.standing? other = d.standing? other ∨
      d.standing? other = none ∧ d'.standing? other = some .directory ∧
        ∃ front, front <+: above ∧ other = lead (d.start p) front

section

variable {d d' made : Disk} {p : Path} {above : List String} {name content : String}

theorem isLeaf_file (content : ByteArray) : (Tree.file content).IsLeaf :=
  fun _ => rfl

/-- A file that is put where the directories above it have been made. -/
theorem written_put (hgrows : d.Grows made (d.start p) above)
    (hreaches : made.Reaches (d.start p) above)
    (hnot : made.standing? (lead (d.start p) above ++ [name]) ≠ some .directory) :
    d.Written (made.put (lead (d.start p) above ++ [name]) (.file content.toUTF8))
      p above name content := by
  have hput := standing?_put (isLeaf_file content.toUTF8)
    (hreaches.directory above List.prefix_rfl) hnot
  constructor
  · exact hgrows.workingDirectory
  · refine ⟨hreaches.short, fun front hfront => ?_⟩
    have hdirectory := hreaches.directory front hfront
    have hne : lead (d.start p) front ≠ lead (d.start p) above ++ [name] := by
      intro heq
      rw [heq] at hdirectory
      exact hnot hdirectory
    rw [hput, if_neg hne, hdirectory]
  · rw [hput, if_pos rfl]
    rfl
  · intro other hother
    rw [hput, if_neg hother]
    exact hgrows.standing? other

/-- Writing bytes where the directories are there. -/
theorem of_writeBytes_eq_ok {bytes : ByteArray} (h : made.writeBytes p bytes = .ok d') :
    ∃ above name, checkPath p = .ok () ∧ p.endsInSlash = false ∧ p.names = above ++ [name] ∧
      IsDown name ∧ IsShort name ∧ made.Reaches (made.start p) above ∧
      made.standing? (lead (made.start p) above ++ [name]) ≠ some .directory ∧
      d' = made.put (lead (made.start p) above ++ [name]) (.file bytes) := by
  unfold writeBytes at h
  cases hresolve : made.resolve p with
  | error fault =>
      rw [hresolve] at h
      cases h
  | ok target =>
      rw [hresolve] at h
      obtain ⟨place, _ | name⟩ := target
      · cases h
      obtain ⟨hpath, above, hnames, hdown, hshort, hreaches, rfl⟩ := of_resolve_eq_entry hresolve
      change (if _ then _ else _) = _ at h
      split at h
      · cases h
      next hobstacle =>
      injection h with h
      rw [not_or, isDirectoryAt_iff] at hobstacle
      exact ⟨above, name, hpath, by simpa using hobstacle.1, hnames, hdown, hshort, hreaches,
        hobstacle.2, h.symm⟩

/-- An admitted file is written once the directories above it are there. -/
theorem Admits.writeBytes_eq_ok (h : d.Admits p above name) (hstart : made.start p = d.start p)
    (hreaches : made.Reaches (d.start p) above)
    (hnot : made.standing? (lead (d.start p) above ++ [name]) ≠ some .directory)
    (bytes : ByteArray) :
    made.writeBytes p bytes = .ok (made.put (lead (d.start p) above ++ [name]) (.file bytes)) := by
  rw [← hstart] at hreaches hnot ⊢
  rw [writeBytes, resolve_of_reaches h.path h.names h.short hreaches, entryName?,
    if_neg (not_or.mpr h.down)]
  exact if_neg (by simp [h.slash, isDirectoryAt_iff, hnot])

/-- A file is written when the directories above it, if any, have been made. -/
theorem writeFile_cases (h : d.writeFile p content = (d', .ok ())) :
    ∃ made, made.writeBytes p content.toUTF8 = .ok d' ∧
      (p.parent? = none ∧ made = d ∨
        ∃ parent, p.parent? = some parent ∧ d.makeDirectories parent = (made, .ok ())) := by
  unfold writeFile at h
  simp only at h
  split at h
  · injection h with _ hfault
    cases hfault
  next made u hmade =>
  split at h
  · next hwritten =>
      injection h with h
      subst h
      refine ⟨made, hwritten, ?_⟩
      split at hmade
      · next hparent =>
          injection hmade with hmade
          exact Or.inl ⟨hparent, hmade.symm⟩
      · next parent hparent =>
          right
          split at hmade
          · next hdirectories =>
              injection hmade with hmade
              subst hmade
              exact ⟨parent, hparent, hdirectories⟩
          · injection hmade with _ hfault
            cases hfault
  · injection h with _ hfault
    cases hfault

/-- Before a file is written the disk only grows along its path. -/
theorem of_writeFile_eq_ok_made (h : d.writeFile p content = (d', .ok ())) :
    ∃ made parents, d.Grows made (d.start p) parents ∧ parents <+: p.names.dropLast ∧
      (made = d ∨ d.standing? (d.start p) = some .directory) ∧
      made.writeBytes p content.toUTF8 = .ok d' := by
  obtain ⟨made, hbytes, ⟨_, rfl⟩ | ⟨parent, hparent, hmade⟩⟩ := writeFile_cases h
  · exact ⟨made, [], Grows.refl made _ _, List.nil_prefix, Or.inl rfl, hbytes⟩
  · have hrelation := Path.isParent_of_parent?_eq_some hparent
    have hstart : d.start parent = d.start p := start_eq_of_isAbsolute d hrelation.isAbsolute
    have hbelow : parent.names <+: p.names.dropLast := by
      obtain ⟨dots, last, behind, hnames, _⟩ := hrelation.names
      rw [hnames, List.append_assoc, List.append_assoc, List.dropLast_append_of_ne_nil (by simp)]
      exact List.prefix_append _ _
    have hgrows := makeDirectories_grows d parent
    rw [hmade, hstart] at hgrows
    have hchanged := makeDirectories_unchanged_or_start hmade
    rw [hstart] at hchanged
    exact ⟨made, parent.names, hgrows, hbelow, hchanged, hbytes⟩

/-- A file that is written was admitted, and nothing else happens than that it is written. -/
theorem of_writeFile_eq_ok (h : d.writeFile p content = (d', .ok ())) :
    ∃ above name, d.Admits p above name ∧ d.Written d' p above name content := by
  obtain ⟨made, parents, hgrows, hparents, hchanged, hwritten⟩ := of_writeFile_eq_ok_made h
  obtain ⟨above, name, hpath, hslash, hnames, hdown, hshort, hreaches, hnot, rfl⟩ :=
    of_writeBytes_eq_ok hwritten
  rw [hnames, List.dropLast_concat] at hparents
  have hgrows := hgrows.mono hparents
  -- what was made are directories, so what is no obstacle now has not been one before
  rw [hgrows.start_eq] at hreaches hnot ⊢
  refine ⟨above, name, ?_, written_put hgrows hreaches hnot⟩
  refine ⟨hpath, hslash, hnames, hdown, hshort, ⟨?_, hreaches.short, ?_⟩, ?_, ?_⟩
  · rcases hchanged with rfl | hstart
    · exact hreaches.start
    · exact hstart
  · intro front hfront bytes hfile
    have hdirectory := hreaches.directory front hfront
    rw [(hgrows.file_iff _ bytes).mpr hfile] at hdirectory
    cases hdirectory
  · exact fun hdirectory => hnot (hgrows.directory hdirectory)
  · intro front hfront heq
    have hdirectory := hreaches.directory front hfront
    rw [heq] at hdirectory
    exact hnot hdirectory

/-- If a file is not written, directories above it may have been made. -/
theorem of_writeFile_eq_error {fault : WriteFault}
    (h : d.writeFile p content = (d', .error fault)) :
    d' = d ∨ ∃ parent, p.parent? = some parent ∧ d' = (d.makeDirectories parent).1 := by
  unfold writeFile at h
  cases hparent : p.parent? with
  | none =>
      left
      simp only [hparent] at h
      split at h
      · cases h
      · injection h with h
        exact h.symm
  | some parent =>
      refine Or.inr ⟨parent, rfl, ?_⟩
      simp only [hparent] at h
      cases hmade : d.makeDirectories parent with
      | mk made result =>
          cases result with
          | error obstacle =>
              simp only [hmade] at h
              injection h with h
              exact h.symm
          | ok _ =>
              simp only [hmade] at h
              split at h
              · cases h
              · injection h with h
                exact h.symm

/-- The path of an admitted file has a parent, and between its names and the one of the file there
are only dots. -/
theorem Admits.exists_parent (h : d.Admits p above name) :
    ∃ parent dots, p.parent? = some parent ∧ parent.IsParent p ∧ above = parent.names ++ dots ∧
      ∀ name ∈ dots, name = "." := by
  obtain ⟨parent, hparent⟩ : ∃ parent, p.parent? = some parent := by
    cases hparent : p.parent? with
    | none =>
        have hdot := Path.eq_dot_of_parent?_eq_none hparent name (by simp [h.names])
        exact absurd hdot h.down.1
    | some parent => exact ⟨parent, rfl⟩
  have hrelation := Path.isParent_of_parent?_eq_some hparent
  obtain ⟨dots, last, behind, hnames, hdots, _, hbehind⟩ := hrelation.names
  have htrimmed := Path.isTrimmed_of_names h.slash h.names h.down.1
  rw [hbehind htrimmed, List.append_nil, h.names] at hnames
  exact ⟨parent, dots, hparent, hrelation, (List.append_inj' hnames rfl).1, hdots⟩

/-- A file that is admitted is written, and nothing else happens. -/
theorem Admits.exists_written (h : d.Admits p above name) (content : String) :
    ∃ d', d.writeFile p content = (d', .ok ()) ∧ d.Written d' p above name content := by
  obtain ⟨parent, dots, hparent, hrelation, habove, hdots⟩ := h.exists_parent
  have hstart : d.start parent = d.start p := start_eq_of_isAbsolute d hrelation.isAbsolute
  have hbelow : parent.names <+: above := habove ▸ List.prefix_append _ _
  have hclear : d.Clear (d.start parent) parent.names := hstart ▸ h.clear.of_isPrefix hbelow
  obtain ⟨rest, htext⟩ := hrelation.text
  obtain ⟨made, hmade, hreaches⟩ :=
    hclear.makeDirectories (checkPath_of_text h.path htext) hrelation.trimmed
  have hgrows := makeDirectories_grows d parent
  rw [hmade, hstart] at hgrows
  rw [hstart] at hreaches
  have habove : made.Reaches (d.start p) above := by
    rw [habove]
    exact hreaches.append_dots hdots
  -- no directory was made in the place of the file, as that is not on the way to it
  have hnot : made.standing? (lead (d.start p) above ++ [name]) ≠ some .directory := by
    rcases hgrows.standing? (lead (d.start p) above ++ [name]) with
      hsame | ⟨_, _, front, hfront, hplace⟩
    · rw [hsame]
      exact h.notDirectory
    · exact absurd hplace.symm (h.notOnWay front (hfront.trans hbelow))
  have hbytes := h.writeBytes_eq_ok (hgrows.start_eq p) habove hnot content.toUTF8
  simp only [writeFile, hparent, hmade, hbytes]
  exact ⟨_, rfl, written_put (hgrows.mono hbelow) habove hnot⟩

/-! ## Other files -/

section

variable {q : Path} {qAbove : List String} {qName : String}

theorem Written.start_eq (hw : d.Written d' p above name content) (q : Path) :
    d'.start q = d.start q := by
  rw [start, start, hw.workingDirectory]

/-- Directories stay directories when a file is written. -/
theorem Written.directory (hw : d.Written d' p above name content) (hp : d.Admits p above name)
    {other : List String} (h : d.standing? other = some .directory) :
    d'.standing? other = some .directory := by
  have hne : other ≠ lead (d.start p) above ++ [name] := by
    rintro rfl
    exact hp.notDirectory h
  rcases hw.other other hne with hsame | ⟨_, hdirectory, _⟩
  · exact hsame.trans h
  · exact hdirectory

/-- Of the files only the one that is written changes. -/
theorem Written.file_iff (hw : d.Written d' p above name content) (other : List String)
    (bytes : ByteArray) :
    d'.standing? other = some (.file bytes) ↔
      other = lead (d.start p) above ++ [name] ∧ content.toUTF8 = bytes ∨
        other ≠ lead (d.start p) above ++ [name] ∧ d.standing? other = some (.file bytes) := by
  by_cases h : other = lead (d.start p) above ++ [name]
  · rw [h, hw.file]
    simp
  · rcases hw.other other h with hsame | ⟨hnone, hdirectory, _⟩
    · rw [hsame]
      simp [h]
    · simp [h, hnone, hdirectory]

theorem Written.reaches_of_reaches (hw : d.Written d' p above name content)
    (hp : d.Admits p above name) {place names : List String} (h : d.Reaches place names) :
    d'.Reaches place names where
  short := h.short
  directory := fun front hfront => hw.directory hp (h.directory front hfront)

/-- A file is still admitted after another one, or itself, has been written, if neither lies on the
way to the other. -/
theorem Admits.of_written (hq : d.Admits q qAbove qName) (hp : d.Admits p above name)
    (hw : d.Written d' p above name content)
    (hqWay : ∀ front, front <+: qAbove →
      lead (d.start q) front ≠ lead (d.start p) above ++ [name])
    (hpWay : ∀ front, front <+: above →
      lead (d.start p) front ≠ lead (d.start q) qAbove ++ [qName]) :
    d'.Admits q qAbove qName := by
  have hstart := hw.start_eq q
  refine ⟨hq.path, hq.slash, hq.names, hq.down, hq.short, ⟨?_, hq.clear.short, ?_⟩, ?_, ?_⟩
  · rw [hstart]
    exact hw.directory hp hq.clear.start
  · intro front hfront bytes hfile
    rw [hstart, hw.file_iff] at hfile
    rcases hfile with ⟨heq, _⟩ | ⟨_, hfile⟩
    · exact hqWay front hfront heq
    · exact hq.clear.noFile front hfront bytes hfile
  · rw [hstart]
    intro hdirectory
    by_cases heq : lead (d.start q) qAbove ++ [qName] = lead (d.start p) above ++ [name]
    · rw [heq, hw.file] at hdirectory
      cases hdirectory
    · rcases hw.other _ heq with hsame | ⟨_, _, front, hfront, hplace⟩
      · exact hq.notDirectory (hsame ▸ hdirectory)
      · exact hpWay front hfront hplace.symm
  · rw [hstart]
    exact hq.notOnWay

/-- A file that was written can be written again. -/
theorem Written.admits (hw : d.Written d' p above name content) (hp : d.Admits p above name) :
    d'.Admits p above name :=
  hp.of_written hp hw hp.notOnWay hp.notOnWay

/-- Writing a file once more with the same content changes nothing. -/
theorem Written.writeFile_again (hw : d.Written d' p above name content)
    (hp : d.Admits p above name) : d'.writeFile p content = (d', .ok ()) := by
  have hagain := hw.admits hp
  obtain ⟨parent, dots, hparent, hrelation, habove, _⟩ := hp.exists_parent
  have hstart : d'.start p = d.start p := hw.start_eq p
  have hreaches : d'.Reaches (d'.start p) above := hstart ▸ hw.reaches
  have hmade : d'.makeDirectories parent = (d', .ok ()) := by
    obtain ⟨rest, htext⟩ := hrelation.text
    refine makeDirectories_of_reaches (checkPath_of_text hp.path htext) ?_
    rw [start_eq_of_isAbsolute d' hrelation.isAbsolute]
    exact hreaches.of_isPrefix (habove ▸ List.prefix_append _ _)
  have hbytes := hagain.writeBytes_eq_ok rfl hreaches hagain.notDirectory content.toUTF8
  have hfile : d'.at? (lead (d'.start p) above ++ [name]) = some (.file content.toUTF8) := by
    rw [at?_eq_file_iff, hstart]
    exact hw.file
  rw [put_eq_self hfile] at hbytes
  simp only [writeFile, hparent, hmade, hbytes]

/-- The bytes of a text give the text back. -/
theorem fromUTF8?_toUTF8 (s : String) : String.fromUTF8? s.toUTF8 = some s := by
  unfold String.fromUTF8?
  split
  · rfl
  · next h => exact absurd s.isValidUTF8 (by simpa using h)

/-- A file of text is read where its directories are reached. -/
theorem Admits.readText (hp : d.Admits p above name) (hreaches : d.Reaches (d.start p) above)
    (hfile : d.standing? (lead (d.start p) above ++ [name]) = some (.file content.toUTF8)) :
    d.readText p = .ok content := by
  have hresolve := resolve_of_reaches hp.path hp.names hp.short hreaches
  rw [← at?_eq_file_iff] at hfile
  have hbytes : d.readBytes p = .ok content.toUTF8 := by
    rw [readBytes, hresolve, entryName?, if_neg (not_or.mpr hp.down)]
    simp only [bind, Except.bind, hfile, hp.slash]
    rfl
  simp only [Disk.readText, hbytes, bind, Except.bind, fromUTF8?_toUTF8]

/-- A file that was written is read back. -/
theorem Written.readText (hw : d.Written d' p above name content) (hp : d.Admits p above name) :
    d'.readText p = .ok content := by
  refine (hw.admits hp).readText ?_ ?_
  · rw [hw.start_eq p]
    exact hw.reaches
  · rw [hw.start_eq p]
    exact hw.file

end

end

end Stubsmith.Disk
