import Stubsmith.Proofs.Disk.Writing
import Stubsmith.Proofs.Manifest.TargetPath
import Stubsmith.Proofs.Path.Below
import Stubsmith.Proofs.Sink.Units

/-!
# Files and memory as stores

Below an empty directory the files of units with plain names are apart from each other: none lies on
the way to another one. So what can be written there by itself can be written in any order and as
often as wanted, and changes no other file (`Disk.AdmitsFile.exists_writeFile`). Whatever units a
sink of files and a sink in memory are used for in turn, they hold the same texts, except that of
several units for one file the last one is on the disk and the first one is found in memory
(`files_and_memory_agree`).
-/

namespace Stubsmith

open Kotlin

theorem IsEntryName.isDown {name : String} (h : IsEntryName name) : Disk.IsDown name :=
  ⟨h.ne_dot, h.ne_dots⟩

namespace SourceFile

section

variable {f g : SourceFile} (root : Path)

theorem steps_ne_nil (f : SourceFile) : f.steps ≠ [] := by simp [steps]

theorem HasPlainNames.names_path (h : f.HasPlainNames) :
    (f.path root).names = (root.names ++ Text.split '.' f.package) ++ [f.fileName ++ ".kt"] := by
  rw [h.path_eq root, root.names_front_append h.isEntryName_of_mem_steps, steps, List.append_assoc]

theorem HasPlainNames.start_path (h : f.HasPlainNames) (d : Disk) :
    d.start (f.path root) = d.start root := by
  rw [h.path_eq root]
  exact Disk.start_eq_of_isAbsolute d
    (root.isAbsolute_front_append f.steps_ne_nil h.isEntryName_of_mem_steps)

/-- The place of the file lies below that of the directory. -/
theorem HasPlainNames.lead_eq (h : f.HasPlainNames) (d : Disk) :
    Disk.lead (d.start root) (root.names ++ Text.split '.' f.package) ++ [f.fileName ++ ".kt"]
      = d.place root ++ f.steps := by
  have hdown : ∀ name ∈ Text.split '.' f.package, Disk.IsDown name :=
    fun name hname => (h.package name hname).isEntryName.isDown
  rw [Disk.lead_append, Disk.lead_of_isDown hdown, steps, List.append_assoc, Disk.place]

end

end SourceFile

/-! ## Files below a directory on a disk -/

namespace Disk

/-- Nothing prevents the file from being written below the directory. -/
def AdmitsFile (d : Disk) (root : Path) (f : SourceFile) : Prop :=
  d.Admits (f.path root) (root.names ++ Text.split '.' f.package) (f.fileName ++ ".kt")

section

variable {d d' : Disk} {root : Path} {f g : SourceFile} {content : String}

/-- A file that can be written is admitted. -/
theorem admitsFile_of_writeFile (hf : f.HasPlainNames)
    (h : (d.writeFile (f.path root) content).2 = .ok ()) : d.AdmitsFile root f := by
  have hwritten : d.writeFile (f.path root) content
      = ((d.writeFile (f.path root) content).1, .ok ()) := Prod.ext rfl h
  obtain ⟨above, name, hadmits, _⟩ := of_writeFile_eq_ok hwritten
  have hnames := hadmits.names
  rw [hf.names_path root] at hnames
  obtain ⟨rfl, hname⟩ := List.append_inj' hnames rfl
  injection hname with hname _
  subst hname
  exact hadmits

/-- No file lies on the way to another one, or to itself. -/
theorem AdmitsFile.notOnWay_other (hg : d.AdmitsFile root g) (hfPlain : f.HasPlainNames)
    (hgPlain : g.HasPlainNames) :
    ∀ front, front <+: root.names ++ Text.split '.' f.package →
      lead (d.start root) front ≠ d.place root ++ g.steps := by
  intro front hfront heq
  rcases List.prefix_or_prefix_of_prefix hfront (List.prefix_append root.names _) with
    hroot | ⟨pieces, rfl⟩
  · -- at or above the root the way is the same for both files
    have hway := hg.notOnWay front (hroot.trans (List.prefix_append _ _))
    rw [hgPlain.start_path, hgPlain.lead_eq] at hway
    exact hway heq
  · rw [List.prefix_append_right_inj] at hfront
    have hdown : ∀ name ∈ pieces, IsDown name := fun name hname =>
      (hfPlain.package name (hfront.subset hname)).isEntryName.isDown
    rw [lead_append, lead_of_isDown hdown, place, List.append_cancel_left_eq] at heq
    subst heq
    -- the name of the file would be a piece of a package
    have hsame := SourceFile.steps_eq_of_isPrefix hfPlain (hfront.trans (List.prefix_append _ _))
    have hlength := hfront.length_le
    rw [hsame, SourceFile.steps, List.length_append, List.length_singleton] at hlength
    omega

/-- What becomes of the disk when the file is written below the directory. -/
structure WrittenFile (d d' : Disk) (root : Path) (f : SourceFile) : Prop where
  workingDirectory : d'.workingDirectory = d.workingDirectory
  /-- The directories of the file are there. -/
  reaches : d'.Reaches (d.start root) (root.names ++ Text.split '.' f.package)
  /-- Of the files only this one is new or changed. -/
  file_iff : ∀ place bytes, d'.standing? place = some (.file bytes) ↔
    place = d.place root ++ f.steps ∧ f.content.toUTF8 = bytes ∨
      place ≠ d.place root ++ f.steps ∧ d.standing? place = some (.file bytes)
  /-- Directories that were reached are still reached. -/
  reaches_other : ∀ place names, d.Reaches place names → d'.Reaches place names
  /-- What could be written can still be written. -/
  admits_other : ∀ g : SourceFile, g.HasPlainNames → d.AdmitsFile root g → d'.AdmitsFile root g

/-- A file that is admitted is written, and prevents no file from being written. -/
theorem AdmitsFile.exists_writeFile (h : d.AdmitsFile root f) (hf : f.HasPlainNames) :
    ∃ d', d.writeFile (f.path root) f.content = (d', .ok ()) ∧ d.WrittenFile d' root f := by
  obtain ⟨d', hwrite, hwritten⟩ := h.exists_written f.content
  refine ⟨d', hwrite, hwritten.workingDirectory, ?_, ?_, ?_, ?_⟩
  · have hreaches := hwritten.reaches
    rwa [hf.start_path] at hreaches
  · intro place bytes
    rw [hwritten.file_iff, hf.start_path, hf.lead_eq]
  · exact fun place names hreaches => hwritten.reaches_of_reaches h hreaches
  · intro g hg hgAdmits
    refine Admits.of_written hgAdmits h hwritten ?_ ?_
    · rw [hg.start_path, hf.start_path, hf.lead_eq]
      exact h.notOnWay_other hg hf
    · rw [hg.start_path, hf.start_path, hg.lead_eq]
      exact hgAdmits.notOnWay_other hf hg

end

end Disk

/-! ## Units that become files -/

namespace FileStore

open UnitScript (lastText?)

/-- The store after units have been written below an empty directory of a disk. -/
structure After (root : Path) (disk : Disk) (done : List UnitScript) (s : FileStore) : Prop where
  root_eq : s.root = root
  written : s.written = done.map fun u => u.file.path root
  workingDirectory : s.disk.workingDirectory = disk.workingDirectory
  file_iff : ∀ place bytes, s.disk.standing? place = some (.file bytes) ↔
    disk.standing? place = some (.file bytes) ∨
      ∃ u ∈ done, place = disk.place root ++ u.file.steps ∧
        (lastText? done u.package u.fileName).map String.toUTF8 = some bytes
  reaches : ∀ u ∈ done,
    s.disk.Reaches (disk.start root) (root.names ++ Text.split '.' u.package)
  admits : ∀ f : SourceFile, f.HasPlainNames → disk.AdmitsFile root f → s.disk.AdmitsFile root f

section

variable {root : Path} {disk : Disk} {done : List UnitScript} {s : FileStore} {u : UnitScript}

theorem after_nil (root : Path) (disk : Disk) : After root disk [] { root, disk } where
  root_eq := rfl
  written := rfl
  workingDirectory := rfl
  file_iff := by simp
  reaches := nofun
  admits := fun _ _ h => h

/-- Two units are for the same package and file name if their files have the same steps. -/
theorem isFor_iff_steps_eq {w : UnitScript} :
    u.isFor w.package w.fileName = true ↔ w.file.steps = u.file.steps := by
  rw [UnitScript.isFor_iff]
  constructor
  · rintro ⟨hpackage, hfileName⟩
    simp only [SourceFile.steps, UnitScript.file, hpackage, hfileName]
  · intro hsteps
    obtain ⟨hpackage, hfileName⟩ := SourceFile.eq_of_steps_eq hsteps
    exact ⟨hpackage.symm, hfileName.symm⟩

/-- The last text for a file once there is one more unit. -/
theorem lastText?_concat_eq (w : UnitScript) :
    lastText? (done ++ [u]) w.package w.fileName
      = if w.file.steps = u.file.steps then some u.text
        else lastText? done w.package w.fileName := by
  rw [UnitScript.lastText?_concat]
  exact if_congr isFor_iff_steps_eq rfl rfl

/-- The files that are there once one more unit has been written. -/
theorem After.file_iff_concat (h : After root disk done s)
    (hempty : disk.standing? (disk.place root ++ u.file.steps) = none) (place : List String)
    (bytes : ByteArray) :
    (place = disk.place root ++ u.file.steps ∧ u.text.toUTF8 = bytes ∨
      place ≠ disk.place root ++ u.file.steps ∧ s.disk.standing? place = some (.file bytes)) ↔
    (disk.standing? place = some (.file bytes) ∨
      ∃ w ∈ done ++ [u], place = disk.place root ++ w.file.steps ∧
        (lastText? (done ++ [u]) w.package w.fileName).map String.toUTF8 = some bytes) := by
  constructor
  · rintro (⟨hplace, hbytes⟩ | ⟨hne, hfile⟩)
    · refine Or.inr ⟨u, by simp, hplace, ?_⟩
      rw [lastText?_concat_eq, if_pos rfl, Option.map_some, hbytes]
    · rcases (h.file_iff place bytes).mp hfile with hold | ⟨w, hw, hplace, hbytes⟩
      · exact Or.inl hold
      · have hsteps : w.file.steps ≠ u.file.steps := fun heq => hne (heq ▸ hplace)
        refine Or.inr ⟨w, List.mem_append_left _ hw, hplace, ?_⟩
        rw [lastText?_concat_eq, if_neg hsteps, hbytes]
  · rintro (hold | ⟨w, hw, hplace, hbytes⟩)
    · -- a file that was there at first is not below the root
      right
      have hne : place ≠ disk.place root ++ u.file.steps := by
        rintro rfl
        rw [hempty] at hold
        cases hold
      exact ⟨hne, (h.file_iff place bytes).mpr (Or.inl hold)⟩
    · rw [lastText?_concat_eq] at hbytes
      by_cases hsteps : w.file.steps = u.file.steps
      · rw [if_pos hsteps] at hbytes
        exact Or.inl ⟨hsteps ▸ hplace, Option.some.inj hbytes⟩
      · right
        have hne : place ≠ disk.place root ++ u.file.steps := by
          rw [hplace]
          exact fun heq => hsteps (List.append_cancel_left heq)
        have hdone : w ∈ done := by
          rcases List.mem_append.mp hw with hdone | hlast
          · exact hdone
          · exact absurd (by rw [List.mem_singleton.mp hlast]) hsteps
        rw [if_neg hsteps] at hbytes
        exact ⟨hne, (h.file_iff place bytes).mpr (Or.inr ⟨w, hdone, hplace, hbytes⟩)⟩

/-- One more unit: no operation fails, its file holds its text, and no other file changes. -/
theorem After.useUnit (h : After root disk done s) (hu : u.file.HasPlainNames)
    (hadmits : disk.AdmitsFile root u.file)
    (hempty : disk.standing? (disk.place root ++ u.file.steps) = none) :
    (∀ outcome ∈ (sink.useUnit s u).2, outcome = .ok ()) ∧
      After root disk (done ++ [u]) (sink.useUnit s u).1 ∧
      ∀ place, place ≠ disk.place root ++ u.file.steps → ∀ bytes,
        (sink.useUnit s u).1.disk.standing? place = some (.file bytes) ↔
          s.disk.standing? place = some (.file bytes) := by
  have hstart : s.disk.start root = disk.start root := by
    rw [Disk.start, Disk.start, h.workingDirectory]
  have hplace : s.disk.place root = disk.place root := by
    rw [Disk.place, Disk.place, hstart]
  obtain ⟨disk', hwrite, hwritten⟩ := (h.admits u.file hu hadmits).exists_writeFile hu
  have hclose : sink.close { s with current := some u.file }
      = ({ s with disk := disk', written := s.written ++ [u.file.path root], current := none },
          .ok ()) := by
    simp only [sink, h.root_eq, hwrite]
  have hstate : (sink.useUnit s u).1
      = { s with disk := disk', written := s.written ++ [u.file.path root], current := none } := by
    rw [sink_collects.useUnit_fst]
    exact congrArg Prod.fst hclose
  have hfile := hwritten.file_iff
  rw [hplace] at hfile
  refine ⟨sink_collects.useUnit_snd (congrArg Prod.snd hclose), ?_, ?_⟩
  · rw [hstate]
    refine ⟨h.root_eq, ?_, hwritten.workingDirectory.trans h.workingDirectory, ?_, ?_, ?_⟩
    · simp [h.written]
    · exact fun place bytes => (hfile place bytes).trans (h.file_iff_concat hempty place bytes)
    · intro w hw
      rcases List.mem_append.mp hw with hdone | hlast
      · exact hwritten.reaches_other _ _ (h.reaches w hdone)
      · have hreaches := hwritten.reaches
        rw [hstart] at hreaches
        rw [List.mem_singleton.mp hlast]
        exact hreaches
    · exact fun f hf hfAdmits => hwritten.admits_other f hf (h.admits f hf hfAdmits)
  · intro place hne bytes
    rw [hstate, hfile]
    simp [hne]

/-- Units one after another, by induction on the units: each finds a disk on which what could be
written at first can still be written. -/
theorem after_useUnits {scripts : List UnitScript}
    (hplain : ∀ u ∈ scripts, u.file.HasPlainNames)
    (hadmits : ∀ u ∈ scripts, disk.AdmitsFile root u.file)
    (hempty : ∀ u ∈ scripts, disk.standing? (disk.place root ++ u.file.steps) = none) :
    (∀ outcome ∈ (sink.useUnits { root, disk } scripts).2, outcome = .ok ()) ∧
      After root disk scripts (sink.useUnits { root, disk } scripts).1 := by
  induction scripts using List.reverseRecOn with
  | nil => exact ⟨nofun, after_nil root disk⟩
  | append_singleton done u ih =>
      rw [List.forall_mem_append, List.forall_mem_singleton] at hplain hadmits hempty
      obtain ⟨houtcomes, hafter⟩ := ih hplain.1 hadmits.1 hempty.1
      obtain ⟨hlast, hafterLast, _⟩ := hafter.useUnit hplain.2 hadmits.2 hempty.2
      rw [Sink.useUnits_append]
      refine ⟨List.forall_mem_append.mpr ⟨houtcomes, ?_⟩, hafterLast⟩
      simp only [Sink.useUnits, List.append_nil]
      exact hlast

/-- The file of a unit is read from the disk. -/
theorem After.readText (h : After root disk done s) (hu : u ∈ done)
    (hplain : u.file.HasPlainNames) (hadmits : disk.AdmitsFile root u.file) {text : String}
    (htext : lastText? done u.package u.fileName = some text) :
    s.disk.readText (u.file.path root) = .ok text := by
  have hstart : s.disk.start (u.file.path root) = disk.start root := by
    rw [hplain.start_path, Disk.start, Disk.start, h.workingDirectory]
  refine (h.admits u.file hplain hadmits).readText ?_ ?_
  · rw [hstart]
    exact h.reaches u hu
  · rw [hstart, hplain.lead_eq, h.file_iff]
    exact Or.inr ⟨u, hu, rfl, by rw [htext]; rfl⟩

end

end FileStore

/-! ## Both stores -/

/-- What has become of units that were written one after another to memory, and to files below a
directory of a disk. -/
structure StoresAgree (root : Path) (disk : Disk) (scripts : List UnitScript) : Prop where
  /-- Nothing fails in memory. -/
  memory_ok : ∀ outcome ∈ (MemoryStore.sink.useUnits {} scripts).2, outcome = .ok ()
  /-- Nothing fails on the disk. -/
  files_ok : ∀ outcome ∈ (FileStore.sink.useUnits { root, disk } scripts).2, outcome = .ok ()
  /-- In memory there is a closed unit for each of them, in order. -/
  units : (MemoryStore.sink.useUnits {} scripts).1.units = scripts.map UnitScript.stored
  /-- In memory the first text for a key is found. -/
  content? : ∀ package fileName,
    (MemoryStore.sink.useUnits {} scripts).1.content? package fileName
      = UnitScript.firstText? scripts package fileName
  /-- The paths that were written are those of the units, in order. -/
  written : (FileStore.sink.useUnits { root, disk } scripts).1.written
    = scripts.map fun u => u.file.path root
  /-- The files on the disk are those that were there, and for every key one with the last text. -/
  files_iff : ∀ place bytes,
    (FileStore.sink.useUnits { root, disk } scripts).1.disk.at? place = some (.file bytes) ↔
      disk.at? place = some (.file bytes) ∨
        ∃ u ∈ scripts, place = disk.place root ++ u.file.steps ∧
          (UnitScript.lastText? scripts u.package u.fileName).map String.toUTF8 = some bytes
  /-- Different keys have different files. -/
  apart : ∀ u ∈ scripts, ∀ v ∈ scripts,
    disk.place root ++ u.file.steps = disk.place root ++ v.file.steps →
      u.package = v.package ∧ u.fileName = v.fileName
  /-- From the disk the last text for a key is read. -/
  readText : ∀ u ∈ scripts, ∃ text,
    UnitScript.lastText? scripts u.package u.fileName = some text ∧
      (FileStore.sink.useUnits { root, disk } scripts).1.disk.readText (u.file.path root)
        = .ok text
  /-- What was opened only once is the same in both. -/
  once : ∀ u ∈ scripts, scripts.countP (UnitScript.isFor u.package u.fileName) = 1 →
    (MemoryStore.sink.useUnits {} scripts).1.content? u.package u.fileName = some u.text ∧
      (FileStore.sink.useUnits { root, disk } scripts).1.disk.readText (u.file.path root)
        = .ok u.text
  /-- A unit changes no file but its own. -/
  unchanged : ∀ before u after, scripts = before ++ u :: after →
    ∀ place, place ≠ disk.place root ++ u.file.steps → ∀ bytes,
      (FileStore.sink.useUnits { root, disk } (before ++ [u])).1.disk.at? place
          = some (.file bytes) ↔
        (FileStore.sink.useUnits { root, disk } before).1.disk.at? place = some (.file bytes)

/-- **Files and memory are two stores for the same units.** The units may be for any keys that the
checks of names accept, with any texts, closed or dropped. The directory is empty or not there yet,
and nothing on the disk prevents any of the files from being written by itself. Then what is in the
stores agrees as `StoresAgree` says: neither repeated keys nor directories that are made for one
file get in the way of another one. -/
theorem files_and_memory_agree (scope : Scope) (packageKind fileKind : String) (root : Path)
    (disk : Disk) (scripts : List UnitScript)
    (hkeys : ∀ u ∈ scripts, scope.checkQualifiedName u.package packageKind = .ok () ∧
      scope.checkName u.fileName fileKind = .ok ())
    (hempty : ∀ name, disk.at? (disk.place root ++ [name]) = none)
    (hwrites : ∀ u ∈ scripts, (disk.writeFile (u.file.path root) u.text).2 = .ok ()) :
    StoresAgree root disk scripts := by
  have hplain : ∀ u ∈ scripts, u.file.HasPlainNames := fun u hu =>
    ⟨(scope.checkQualifiedName_eq_ok_iff _ _).mp (hkeys u hu).1,
      (scope.checkName_eq_ok_iff _ _).mp (hkeys u hu).2⟩
  have hadmits : ∀ u ∈ scripts, disk.AdmitsFile root u.file := fun u hu =>
    Disk.admitsFile_of_writeFile (hplain u hu) (hwrites u hu)
  have hfree : ∀ u ∈ scripts, disk.standing? (disk.place root ++ u.file.steps) = none := by
    intro u _
    obtain ⟨first, rest, hsteps⟩ := List.exists_cons_of_ne_nil u.file.steps_ne_nil
    have hfirst : disk.standing? (disk.place root ++ [first]) = none := by
      rw [Disk.standing?, Tree.standing?, Option.map_eq_none_iff]
      exact hempty first
    rw [hsteps, ← List.singleton_append, ← List.append_assoc]
    exact Disk.standing?_append_eq_none hfirst rest
  obtain ⟨hunits, hmemory⟩ := MemoryStore.units_useUnits {} scripts
  obtain ⟨hfiles, hafter⟩ := FileStore.after_useUnits hplain hadmits hfree
  have hread : ∀ u ∈ scripts, ∀ text,
      UnitScript.lastText? scripts u.package u.fileName = some text →
        (FileStore.sink.useUnits { root, disk } scripts).1.disk.readText (u.file.path root)
          = .ok text :=
    fun u hu text htext => hafter.readText hu (hplain u hu) (hadmits u hu) htext
  refine ⟨hmemory, hfiles, hunits, MemoryStore.content?_useUnits scripts, hafter.written,
    ?_, ?_, ?_, ?_, ?_⟩
  · intro place bytes
    rw [Disk.at?_eq_file_iff, Disk.at?_eq_file_iff]
    exact hafter.file_iff place bytes
  · intro u _ v _ hplace
    exact SourceFile.eq_of_steps_eq (List.append_cancel_left hplace)
  · intro u hu
    obtain ⟨text, htext⟩ := UnitScript.exists_lastText?_eq_some hu
    exact ⟨text, htext, hread u hu text htext⟩
  · intro u hu honce
    obtain ⟨hfirst, hlast⟩ := UnitScript.firstText?_of_countP_eq_one hu honce
    exact ⟨(MemoryStore.content?_useUnits scripts _ _).trans hfirst, hread u hu u.text hlast⟩
  · rintro before u after rfl place hne bytes
    have hbefore : ∀ w ∈ before, w ∈ before ++ u :: after :=
      fun w hw => List.mem_append_left _ hw
    have hu : u ∈ before ++ u :: after := by simp
    obtain ⟨_, hafterBefore⟩ := FileStore.after_useUnits
      (fun w hw => hplain w (hbefore w hw)) (fun w hw => hadmits w (hbefore w hw))
      (fun w hw => hfree w (hbefore w hw))
    obtain ⟨_, _, hframe⟩ :=
      hafterBefore.useUnit (hplain u hu) (hadmits u hu) (hfree u hu)
    rw [Sink.useUnits_append, Disk.at?_eq_file_iff, Disk.at?_eq_file_iff]
    exact hframe place hne bytes

/-- A disk with an empty directory and a file beside it. -/
def diskWithNotes : Disk where
  root := .directory [("out", .directory []), ("notes.txt", .file "Notizen".toUTF8)]

/-- Three units for two keys. The directories of the second one are named like the first one and
its package. -/
def repeatedUnits : List UnitScript :=
  [ { package := "org.example", fileName := "Quelle", texts := ["package ", "org.example"] },
    { package := "org.example.Quelle", fileName := "Ziel", texts := ["fun ziel()"],
      dropped := true },
    { package := "org.example", fileName := "Quelle", texts := [] } ]

theorem repeatedUnits_agree :
    StoresAgree (.ofText "out") diskWithNotes repeatedUnits ∧
      (MemoryStore.sink.useUnits {} repeatedUnits).1.content? "org.example" "Quelle"
        = some "package org.example" ∧
      (FileStore.sink.useUnits
        { root := .ofText "out", disk := diskWithNotes } repeatedUnits).1.disk.readText
          (.ofText "out/org/example/Quelle.kt") = .ok "" ∧
      (FileStore.sink.useUnits
        { root := .ofText "out", disk := diskWithNotes } repeatedUnits).1.disk.readText
          (.ofText "out/org/example/Quelle/Ziel.kt") = .ok "fun ziel()" := by
  have hplace : diskWithNotes.place (.ofText "out") = ["out"] := by decide +kernel
  have hagree := files_and_memory_agree { source := { name := "fungen.toml", text := "" } }
    "package" "file name" (.ofText "out") diskWithNotes repeatedUnits
    (by
      simp only [Scope.checkQualifiedName_eq_ok_iff, Scope.checkName_eq_ok_iff]
      decide +kernel)
    (by rw [hplace]; exact fun _ => rfl) (by decide +kernel)
  refine ⟨hagree, ?_, ?_, ?_⟩
  · rw [hagree.content?]
    decide
  · obtain ⟨text, htext, hread⟩ := hagree.readText repeatedUnits[2] (by simp [repeatedUnits])
    have hlast : some text = some "" := htext.symm.trans (by decide)
    rw [← Option.some.inj hlast, ← hread]
    exact congrArg _ (by decide +kernel)
  · obtain ⟨_, hread⟩ := hagree.once repeatedUnits[1] (by simp [repeatedUnits]) (by decide)
    exact Eq.trans (congrArg _ (by decide +kernel)) hread

end Stubsmith
