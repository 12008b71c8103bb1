import Stubsmith.Proofs.Disk.Writing
import Stubsmith.Proofs.Path.Downward

/-!
# The target of a write

The target of a path that goes down by names is the place of the last of them, below the working
directory. Writing a file there succeeds exactly if nothing is in the way (`Disk.Unobstructed`).
Then the file has the content, and writing it once more changes nothing (`Disk.PutsFile`); else all
files stay as they are (`Disk.LeavesFiles`). In both cases everything else stays too, but for
directories that were missing on the way: `Disk.writeFile_touches_target_only`.
-/

namespace Stubsmith.Disk

/-! ## The way to the target -/

/-- The place is the working directory or lies below it, on the way down by the names, but before
the end of the way. -/
def IsOnWay (d : Disk) (names place : List String) : Prop :=
  ∃ front, front <+: names ∧ front ≠ names ∧ place = d.workingDirectory ++ front

/-- At the place, which is on the way, the second disk has a directory where the first one has
nothing. -/
structure IsNewOnWay (d d' : Disk) (names place : List String) : Prop where
  onWay : d.IsOnWay names place
  before : d.standing? place = none
  after : d'.standing? place = some .directory

section

variable {d d' : Disk} {p parent : Path} {names above place : List String} {name : String}

theorem start_of_goesDown (hp : p.GoesDown names) (d : Disk) : d.start p = d.workingDirectory := by
  rw [start, hp.isRelative]
  rfl

/-- The first names of a path that goes down lead down, too. -/
theorem lead_of_goesDown (hp : p.GoesDown names) {front : List String} (hfront : front <+: p.names)
    (place : List String) : lead place front = place ++ front.filter (· ≠ ".") :=
  lead_of_forall_ne (fun name hname => hp.notUp name (hfront.subset hname)) place

/-- If the names of the path go on behind some of them, these lead to places on the way. -/
theorem isOnWay_lead (hp : p.GoesDown names) {more rest front : List String} {last : String}
    (hmore : more <+: p.names) (hnames : names = more.filter (· ≠ ".") ++ last :: rest)
    (hfront : front <+: more) : d.IsOnWay names (lead (d.start p) front) := by
  have hfilter := hfront.filter (· ≠ ".")
  refine ⟨front.filter (· ≠ "."), ?_, ?_, ?_⟩
  · rw [hnames]
    exact hfilter.trans (List.prefix_append _ _)
  · intro heq
    have hlength := hfilter.length_le
    rw [heq, hnames, List.length_append, List.length_cons] at hlength
    omega
  · rw [start_of_goesDown hp, lead_of_goesDown hp (hfront.trans hmore)]

/-- Before the last name of a path, the places on the way are those that its names lead to. -/
theorem isOnWay_iff (hp : p.GoesDown names) (hnames : p.names = above ++ [name])
    (hdown : IsDown name) :
    d.IsOnWay names place ↔ ∃ front, front <+: above ∧ place = lead (d.start p) front := by
  have habove : above <+: p.names := hnames ▸ List.prefix_append _ _
  have hsteps : names = above.filter (· ≠ ".") ++ [name] := by
    rw [← hp.names_eq, hnames, List.filter_append, List.filter_cons_of_pos (by simpa using hdown.1)]
    rfl
  constructor
  · rintro ⟨front, hfront, hne, rfl⟩
    rw [hsteps, List.prefix_concat_iff, ← hsteps] at hfront
    obtain ⟨rest, hrest⟩ := hfront.resolve_left hne
    obtain ⟨before, after, rfl, rfl, _⟩ := List.filter_eq_append_iff.mp hrest.symm
    refine ⟨before, List.prefix_append _ _, ?_⟩
    rw [start_of_goesDown hp, lead_of_goesDown hp ((List.prefix_append _ _).trans habove)]
  · rintro ⟨front, hfront, rfl⟩
    exact isOnWay_lead hp habove hsteps hfront

/-- The path leads to its target. -/
theorem target_eq (hp : p.GoesDown names) (hnames : p.names = above ++ [name])
    (hdown : IsDown name) :
    lead (d.start p) above ++ [name] = d.workingDirectory ++ names := by
  rw [start_of_goesDown hp, lead_of_goesDown hp (hnames ▸ List.prefix_append _ _),
    ← hp.names_eq, hnames, List.filter_append, List.filter_cons_of_pos (by simpa using hdown.1),
    List.append_assoc]
  rfl

end

/-! ## When the target can be written -/

/-- Nothing is in the way of a file at the target of the path. -/
structure Unobstructed (d : Disk) (p : Path) (names : List String) : Prop where
  /-- The text of the path is not empty, not too long, and without null characters. -/
  path : checkPath p = .ok ()
  /-- It ends in the last name, not in a slash or a dot. -/
  ending : p.segments.getLast? = names.getLast?
  short : ∀ name ∈ names, IsShort name
  start : d.standing? d.workingDirectory = some .directory
  noFile : ∀ place, d.IsOnWay names place → ∀ bytes, d.standing? place ≠ some (.file bytes)
  notDirectory : d.standing? (d.workingDirectory ++ names) ≠ some .directory

section

variable {d d' : Disk} {p : Path} {names above : List String} {name content : String}

theorem Admits.unobstructed (h : d.Admits p above name) (hp : p.GoesDown names) :
    d.Unobstructed p names where
  path := h.path
  ending := by
    have hne : p.names ≠ [] := by simp [h.names]
    rw [← Path.getLast?_names h.slash hne, ← hp.names_eq, h.names, List.filter_append,
      List.filter_cons_of_pos (by simpa using h.down.1)]
    simp
  short := by
    intro other hother
    have hmem := (hp.mem_names hother).1
    rw [h.names, List.mem_append, List.mem_singleton] at hmem
    rcases hmem with habove | rfl
    · exact h.clear.short other habove
    · exact h.short
  start := by
    rw [← start_of_goesDown hp]
    exact h.clear.start
  noFile := by
    intro place hplace
    obtain ⟨front, hfront, rfl⟩ := (isOnWay_iff hp h.names h.down).mp hplace
    exact h.clear.noFile front hfront
  notDirectory := by
    rw [← target_eq hp h.names h.down]
    exact h.notDirectory

/-- The target itself is not on the way. -/
theorem IsOnWay.ne_target {place : List String} (h : d.IsOnWay names place) :
    place ≠ d.workingDirectory ++ names := by
  obtain ⟨front, _, hne, rfl⟩ := h
  exact fun heq => hne (List.append_cancel_left heq)

/-- An unobstructed path has a last name, and its text ends in it. -/
theorem Unobstructed.exists_segments_eq (h : d.Unobstructed p names) :
    ∃ init name, p.segments = init ++ [name] ∧ name ∈ names := by
  rcases List.eq_nil_or_concat' names with rfl | ⟨others, name, rfl⟩
  · -- without a name the path is empty
    have hpath := h.path
    obtain ⟨segments⟩ := p
    have hnil : segments = [] := List.getLast?_eq_none_iff.mp h.ending
    rw [hnil] at hpath
    cases hpath
  · have hlast : p.segments.getLast? = some name := by
      rw [h.ending, List.getLast?_concat]
    obtain ⟨init, hinit⟩ := List.getLast?_eq_some_iff.mp hlast
    exact ⟨init, name, hinit, by simp⟩

theorem Unobstructed.exists_admits (h : d.Unobstructed p names) (hp : p.GoesDown names) :
    ∃ above name, d.Admits p above name := by
  obtain ⟨init, name, hsegments, hname⟩ := h.exists_segments_eq
  obtain ⟨hmem, hdot⟩ := hp.mem_names hname
  have hdown : IsDown name := ⟨hdot, hp.notUp name hmem⟩
  have hempty : name ≠ "" := by simpa using (List.mem_filter.mp hmem).2
  have hnames : p.names = Path.namesOf init ++ [name] := by
    rw [Path.names, hsegments, List.filter_append, List.filter_cons_of_pos (by simpa using hempty)]
    rfl
  have honWay : ∀ front, front <+: Path.namesOf init → d.IsOnWay names (lead (d.start p) front) :=
    fun front hfront => (isOnWay_iff hp hnames hdown).mpr ⟨front, hfront, rfl⟩
  refine ⟨Path.namesOf init, name, h.path, ?_, hnames, hdown, h.short name hname, ⟨?_, ?_, ?_⟩,
    ?_, ?_⟩
  · simp [Path.endsInSlash, hsegments, hempty]
  · rw [start_of_goesDown hp]
    exact h.start
  · intro other hother
    by_cases hotherDot : other = "."
    · rw [hotherDot]
      decide
    · refine h.short other ?_
      rw [← hp.names_eq, List.mem_filter, hnames]
      exact ⟨List.mem_append_left _ hother, by simpa using hotherDot⟩
  · exact fun front hfront => h.noFile _ (honWay front hfront)
  · rw [target_eq hp hnames hdown]
    exact h.notDirectory
  · intro front hfront
    rw [target_eq hp hnames hdown]
    exact (honWay front hfront).ne_target

end

/-! ## What becomes of the disk -/

/-- The second disk is the first one with the file at the target and the directories on the way. -/
structure PutsFile (d d' : Disk) (p : Path) (names : List String) (content : String) : Prop where
  workingDirectory : d'.workingDirectory = d.workingDirectory
  /-- The file has the content and nothing of what it held before. -/
  file : d'.standing? (d.workingDirectory ++ names) = some (.file content.toUTF8)
  readText : d'.readText p = .ok content
  onWay : ∀ place, d.IsOnWay names place → d'.standing? place = some .directory
  other : ∀ place, place ≠ d.workingDirectory ++ names →
    d'.standing? place = d.standing? place ∨ d.IsNewOnWay d' names place
  /-- Nothing changes when it is written once more. -/
  again : d'.writeFile p content = (d', .ok ())

/-- The second disk has the files of the first one and no others. -/
structure LeavesFiles (d d' : Disk) (names : List String) : Prop where
  workingDirectory : d'.workingDirectory = d.workingDirectory
  file_iff : ∀ place bytes,
    d'.standing? place = some (.file bytes) ↔ d.standing? place = some (.file bytes)
  other : ∀ place, d'.standing? place = d.standing? place ∨ d.IsNewOnWay d' names place
  /-- In a new directory there is nothing but the next new one. -/
  empty : ∀ place, d.IsNewOnWay d' names place → ∀ name,
    d'.standing? (place ++ [name]) = none ∨ d.IsNewOnWay d' names (place ++ [name])

section

variable {d d' : Disk} {p : Path} {names above : List String} {name content : String}

theorem Written.putsFile (hw : d.Written d' p above name content) (ha : d.Admits p above name)
    (hp : p.GoesDown names) : d.PutsFile d' p names content := by
  have htarget := target_eq (d := d) hp ha.names ha.down
  refine ⟨hw.workingDirectory, htarget ▸ hw.file, hw.readText ha, ?_, ?_, hw.writeFile_again ha⟩
  · intro place hplace
    obtain ⟨front, hfront, rfl⟩ := (isOnWay_iff hp ha.names ha.down).mp hplace
    exact hw.reaches.directory front hfront
  · intro place hplace
    rw [← htarget] at hplace
    rcases hw.other place hplace with hsame | ⟨hnone, hdirectory, front, hfront, hlead⟩
    · exact Or.inl hsame
    · exact Or.inr
        ⟨(isOnWay_iff hp ha.names ha.down).mpr ⟨front, hfront, hlead⟩, hnone, hdirectory⟩

/-- Directories on the way are all that is new if the disk has grown there. -/
theorem Grows.leavesFiles (hp : p.GoesDown names) {more rest : List String} {last : String}
    (h : d.Grows d' (d.start p) more) (hmore : more <+: p.names)
    (hnames : names = more.filter (· ≠ ".") ++ last :: rest) : d.LeavesFiles d' names := by
  have hother (place : List String) :
      d'.standing? place = d.standing? place ∨ d.IsNewOnWay d' names place := by
    rcases h.standing? place with hsame | ⟨hnone, hdirectory, front, hfront, rfl⟩
    · exact Or.inl hsame
    · exact Or.inr ⟨isOnWay_lead hp hmore hnames hfront, hnone, hdirectory⟩
  refine ⟨h.workingDirectory, h.file_iff, hother, ?_⟩
  intro place hplace name
  rcases hother (place ++ [name]) with hsame | hnew
  · left
    rw [hsame]
    exact standing?_append_eq_none hplace.before [name]
  · exact Or.inr hnew

theorem LeavesFiles.refl (d : Disk) (names : List String) : d.LeavesFiles d names where
  workingDirectory := rfl
  file_iff := fun _ _ => Iff.rfl
  other := fun _ => Or.inl rfl
  empty := by
    intro place hplace
    have hdirectory := hplace.after
    rw [hplace.before] at hdirectory
    cases hdirectory

/-- If a file is not written, no file changes. -/
theorem leavesFiles_of_writeFile_eq_error {fault : WriteFault} (hp : p.GoesDown names)
    (h : d.writeFile p content = (d', .error fault)) : d.LeavesFiles d' names := by
  rcases of_writeFile_eq_error h with rfl | ⟨parent, hparent, rfl⟩
  · exact LeavesFiles.refl d' names
  · obtain ⟨hmore, last, rest, hnames⟩ := hp.exists_names_parent hparent
    have hgrows := makeDirectories_grows d parent
    rw [start_eq_of_isAbsolute d (Path.isParent_of_parent?_eq_some hparent).isAbsolute] at hgrows
    exact hgrows.leavesFiles hp hmore hnames

end

/-- **Writing a file touches only its target.** The path may be any whose components are names, on
any disk. If nothing is in the way, the file is written: it has the content, whatever it held
before, the places on the way are directories, everything else is as before, and writing it again
changes nothing. If something is in the way, writing fails: the files are those from before, and all
that may be new are empty directories on the way. -/
theorem writeFile_touches_target_only (d : Disk) {p : Path} {names : List String}
    (hp : p.components = names.map .normal) (content : String) :
    d.Unobstructed p names ∧
        (∃ d', d.writeFile p content = (d', .ok ()) ∧ d.PutsFile d' p names content) ∨
      ¬ d.Unobstructed p names ∧
        ∃ d' fault, d.writeFile p content = (d', .error fault) ∧ d.LeavesFiles d' names := by
  have hdown := Path.goesDown_of_components hp
  by_cases hfree : d.Unobstructed p names
  · left
    obtain ⟨above, name, hadmits⟩ := hfree.exists_admits hdown
    obtain ⟨d', hwrite, hwritten⟩ := hadmits.exists_written content
    exact ⟨hfree, d', hwrite, hwritten.putsFile hadmits hdown⟩
  · right
    cases hwrite : d.writeFile p content with
    | mk d' result =>
        cases result with
        | error fault =>
            exact ⟨hfree, d', fault, rfl, leavesFiles_of_writeFile_eq_error hdown hwrite⟩
        | ok _ =>
            obtain ⟨above, name, hadmits, _⟩ := of_writeFile_eq_ok hwrite
            exact absurd (hadmits.unobstructed hdown) hfree

/-- A disk with a file in a directory and one beside it. -/
def diskWithSource : Disk where
  root := .directory
    [("out", .directory [("Quelle.kt", .file "package org.example.alt".toUTF8)]),
      ("notes.txt", .file "Notizen".toUTF8)]

/-- A longer text is replaced. Where the name of the file has a null character, its directory is
made and nothing more. -/
theorem diskWithSource_target_touched :
    let source := Path.ofText "out/Quelle.kt"
    let unnamed := Path.ofText "out//neu/./Quelle\x00.kt"
    let written := diskWithSource.writeFile source "package neu"
    let failed := diskWithSource.writeFile unnamed "package neu"
    (written.2 = .ok () ∧ written.1.readText source = .ok "package neu" ∧
      written.1.standing? ["notes.txt"] = diskWithSource.standing? ["notes.txt"] ∧
      written.1.writeFile source "package neu" = (written.1, .ok ())) ∧
    failed.2 = .error (.file unnamed .invalidInput) ∧
      (∀ place bytes, failed.1.standing? place = some (.file bytes) ↔
        diskWithSource.standing? place = some (.file bytes)) ∧
      failed.1.isDirectoryAt ["out", "neu"] = true := by
  intro source unnamed written failed
  have hsource : source.components = ["out", "Quelle.kt"].map .normal := by decide +kernel
  have hunnamed : unnamed.components = ["out", "neu", "Quelle\x00.kt"].map .normal := by
    decide +kernel
  have hwritten : written.2 = .ok () := by decide +kernel
  have hfailed : failed.2 = .error (.file unnamed .invalidInput) := by decide +kernel
  constructor
  · rcases writeFile_touches_target_only diskWithSource hsource "package neu" with
      ⟨_, d', hwrite, hputs⟩ | ⟨_, d', fault, hwrite, _⟩
    · have hd' : written.1 = d' := congrArg Prod.fst hwrite
      rw [hd']
      refine ⟨hwritten, hputs.readText, ?_, hputs.again⟩
      rcases hputs.other ["notes.txt"] (by decide) with hsame | hnew
      · exact hsame
      · have hnone := hnew.before
        cases hnone
    · have hfault : written.2 = .error fault := congrArg Prod.snd hwrite
      rw [hwritten] at hfault
      cases hfault
  · rcases writeFile_touches_target_only diskWithSource hunnamed "package neu" with
      ⟨_, d', hwrite, _⟩ | ⟨_, d', fault, hwrite, hleaves⟩
    · have hok : failed.2 = .ok () := congrArg Prod.snd hwrite
      rw [hfailed] at hok
      cases hok
    · have hd' : failed.1 = d' := congrArg Prod.fst hwrite
      refine ⟨hfailed, ?_, by decide +kernel⟩
      rw [hd']
      exact hleaves.file_iff

end Stubsmith.Disk
