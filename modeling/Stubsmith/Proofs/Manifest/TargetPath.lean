import Stubsmith.Proofs.Manifest.Names
import Stubsmith.Proofs.Path
import Stubsmith.Proofs.Report.Agreement

/-!
# Where the file of a manifest goes

A plain identifier can be the name of a directory, and with the extension of Kotlin sources behind
it the name of a file that is no identifier. So the file of a manifest that was read from its source
lies below the output directory, a step down for every piece of its package and one for its name,
and no two packages or names lead to one file or to a file inside another
(`Manifest.target_below_base`).
-/

namespace Stubsmith

open Kotlin

/-! ## Identifiers as names of entries -/

namespace Kotlin

section

variable {name : String}

/-- An identifier can be the name of a directory. -/
theorem IsIdentifier.isEntryName (h : IsIdentifier name) : IsEntryName name where
  ne_empty := by
    rintro rfl
    cases h
  ne_dot := by
    rintro rfl
    exact h.not_mem (x := '.') (by decide) (by decide)
  ne_dots := by
    rintro rfl
    exact h.not_mem (x := '.') (by decide) (by decide)
  slash_not_mem := h.not_mem (by decide)
  null_not_mem := h.not_mem (by decide)

/-- With the extension behind it an identifier can be the name of a file. -/
theorem IsIdentifier.isEntryName_extended (h : IsIdentifier name) :
    IsEntryName (name ++ ".kt") := by
  have hlist : (name ++ ".kt").toList = name.toList ++ ['.', 'k', 't'] := String.toList_append
  have hne : ∀ word : String, 'k' ∉ word.toList → name ++ ".kt" ≠ word := by
    intro word hword heq
    apply hword
    rw [← heq, hlist]
    simp
  have hextended : ∀ x ∉ name.toList, x ∉ ['.', 'k', 't'] → x ∉ (name ++ ".kt").toList := by
    intro x hname hx
    rw [hlist, List.mem_append, not_or]
    exact ⟨hname, hx⟩
  exact {
    ne_empty := hne "" (by decide)
    ne_dot := hne "." (by decide)
    ne_dots := hne ".." (by decide)
    slash_not_mem := hextended _ (h.not_mem (by decide)) (by decide)
    null_not_mem := hextended _ (h.not_mem (by decide)) (by decide) }

/-- With the extension behind it no name is an identifier. -/
theorem not_isIdentifier_extended (name : String) : ¬ IsIdentifier (name ++ ".kt") := by
  intro h
  have hdot : '.' ∈ (name ++ ".kt").toList := by simp
  exact h.not_mem (by decide) hdot

end

end Kotlin

/-! ## The steps from the output directory to the file -/

namespace SourceFile

/-- The names of the steps down to the file: the pieces of the package, and the name with the
extension. -/
def steps (f : SourceFile) : List String :=
  Text.split '.' f.package ++ [f.fileName ++ ".kt"]

/-- Package and name are plain. -/
structure HasPlainNames (f : SourceFile) : Prop where
  package : IsQualifiedIdentifier f.package
  fileName : IsIdentifier f.fileName

section

variable {f g : SourceFile}

theorem HasPlainNames.isEntryName_of_mem_steps (h : f.HasPlainNames) :
    ∀ name ∈ f.steps, IsEntryName name := by
  intro name hname
  rcases List.mem_append.mp hname with hpiece | hlast
  · exact (h.package name hpiece).isEntryName
  · rw [List.mem_singleton.mp hlast]
    exact h.fileName.isEntryName_extended

/-- The path of the file is that of the output directory with the steps behind it. -/
theorem HasPlainNames.path_eq (h : f.HasPlainNames) (base : Path) :
    f.path base = ⟨base.front ++ f.steps⟩ := by
  have hpieces : ∀ piece ∈ Text.split '.' f.package, IsEntryName piece :=
    fun piece hpiece => (h.package piece hpiece).isEntryName
  rw [path, Path.ofPackage_eq hpieces, Path.join_eq base (Path.isAbsolute_of_names hpieces),
    Path.join_ofText _ h.fileName.isEntryName_extended,
    Path.front_append (Text.split_ne_nil '.' f.package) hpieces, List.append_assoc, steps]

/-- The path of the file has the components of the output directory, and the steps behind them. -/
theorem HasPlainNames.components_path (h : f.HasPlainNames) (base : Path) :
    (f.path base).components = base.components ++ f.steps.map .normal := by
  rw [h.path_eq base]
  exact base.components_front_append (by simp [steps]) h.isEntryName_of_mem_steps

/-- Steps to one file do not pass through another one. -/
theorem steps_eq_of_isPrefix (hg : g.HasPlainNames) (h : f.steps <+: g.steps) :
    f.steps = g.steps := by
  rcases List.prefix_concat_iff.mp h with heq | hbehind
  · exact heq
  · -- the name of a file would be a piece of a package
    have hlast : f.fileName ++ ".kt" ∈ Text.split '.' g.package :=
      hbehind.subset (List.mem_append_right _ (List.mem_singleton_self _))
    exact absurd (hg.package _ hlast) (not_isIdentifier_extended f.fileName)

/-- A path to one file does not lead through another one. -/
theorem HasPlainNames.steps_eq_of_components_isPrefix (hf : f.HasPlainNames) (hg : g.HasPlainNames)
    (base : Path) (h : (f.path base).components <+: (g.path base).components) :
    f.steps = g.steps := by
  rw [hf.components_path base, hg.components_path base, List.prefix_append_right_inj] at h
  -- the names are read off the components again
  have hnames := h.filterMap Component.name?
  rw [filterMap_name?, filterMap_name?] at hnames
  exact SourceFile.steps_eq_of_isPrefix hg hnames

/-- Package and name are known from the steps. -/
theorem eq_of_steps_eq (h : f.steps = g.steps) :
    f.package = g.package ∧ f.fileName = g.fileName := by
  obtain ⟨hpieces, hlast⟩ := List.append_inj' h rfl
  injection hlast with hlast _
  refine ⟨Text.split_injective '.' hpieces, ?_⟩
  have hchars := congrArg String.toList hlast
  rw [String.toList_append, String.toList_append] at hchars
  exact String.toList_inj.mp (List.append_cancel_right hchars)

end

end SourceFile

/-! ## The file of a manifest -/

namespace Manifest

/-- The file of the manifest with a content. -/
def target (m : Manifest) (content : String) : SourceFile where
  package := m.configuration.package
  fileName := m.configuration.fileName
  content := content

/-- The file of a manifest that was read from a source has plain names. -/
theorem hasPlainNames_target {source : Source} {m : Manifest} (h : parse source = .ok m)
    (content : String) : (m.target content).HasPlainNames where
  package := (hasPlainNames_of_parse h).package
  fileName := (hasPlainNames_of_parse h).fileName

/-- What a generation hands on to be written goes to the file of the manifest. -/
theorem path_of_mem_writeCalls {m : Manifest} {base : Path} {disk : Disk} {call : WriteCall}
    (h : call ∈ m.writeCalls base disk) (content : String) :
    call.path = (m.target content).path base := by
  rw [writeCalls_eq] at h
  split at h
  · cases h
  · rw [List.mem_singleton.mp h]
    rfl

/-- **Files stay below the output directory, and apart.** The path of the file of a manifest that
was read from its source adds to the output directory one step down for every piece of the package
and one for the file, and every file that is handed on to be written has that path. If two such
paths have the same components, package and file name are the same, and neither path leads through
the other. -/
theorem target_below_base {source source' : Source} {m m' : Manifest}
    (hm : parse source = .ok m) (hm' : parse source' = .ok m') (base : Path)
    (content content' : String) :
    let names := Text.split '.' m.configuration.package ++ [m.configuration.fileName ++ ".kt"]
    let path := (m.target content).path base
    let path' := (m'.target content').path base
    path.components = base.components ++ names.map .normal ∧
      (∀ name ∈ names, IsEntryName name) ∧
      (∀ disk, ∀ call ∈ m.writeCalls base disk, call.path = path) ∧
      (path.components = path'.components →
        m.configuration.package = m'.configuration.package ∧
          m.configuration.fileName = m'.configuration.fileName) ∧
      (path.components <+: path'.components → path.components = path'.components) := by
  have hplain := hasPlainNames_target hm content
  have hplain' := hasPlainNames_target hm' content'
  refine ⟨hplain.components_path base, hplain.isEntryName_of_mem_steps, ?_, ?_, ?_⟩
  · intro disk call hcall
    exact path_of_mem_writeCalls hcall content
  · intro heq
    have hbehind : ((m.target content).path base).components
        <+: ((m'.target content').path base).components := heq ▸ List.prefix_rfl
    exact SourceFile.eq_of_steps_eq
      (hplain.steps_eq_of_components_isPrefix hplain' base hbehind)
  · intro hbehind
    rw [hplain.components_path base, hplain'.components_path base,
      hplain.steps_eq_of_components_isPrefix hplain' base hbehind]

end Manifest

/-- A manifest with a package of its own. -/
def packageSource : Source where
  name := "fungen.toml"
  text := "[processor]\npackage = \"org.übung\"\n"

/-- A manifest with a file name of its own. -/
def fileNameSource : Source where
  name := "fungen.toml"
  text := "[processor]\nfile_name = \"Quelle\"\n"

/-- The files of `packageSource` and `fileNameSource` below one directory. -/
theorem targets_below_srv :
    ∃ m m', Manifest.parse packageSource = .ok m ∧ Manifest.parse fileNameSource = .ok m' ∧
      ((m.target "").path (.ofText "/srv/out/")).components
        = [.root, .normal "srv", .normal "out", .normal "org", .normal "übung",
            .normal "GeneratedFunctions.kt"] ∧
      ¬ ((m.target "").path (.ofText "/srv/out/")).components
        <+: ((m'.target "").path (.ofText "/srv/out/")).components := by
  obtain ⟨m, hm, hnames⟩ : ∃ m, Manifest.parse packageSource = .ok m ∧
      (m.configuration.package, m.configuration.fileName) = ("org.übung", "GeneratedFunctions") :=
    exists_eq_ok_of_map_toOption (by decide +kernel)
  obtain ⟨m', hm', hnames'⟩ : ∃ m, Manifest.parse fileNameSource = .ok m ∧
      (m.configuration.package, m.configuration.fileName) = ("org.example", "Quelle") :=
    exists_eq_ok_of_map_toOption (by decide +kernel)
  injection hnames with hpackage hfile
  injection hnames' with hpackage' _
  obtain ⟨hcomponents, _, _, hinjective, hbehind⟩ :=
    Manifest.target_below_base hm hm' (.ofText "/srv/out/") "" ""
  refine ⟨m, m', hm, hm', ?_, ?_⟩
  · rw [hcomponents, hpackage, hfile]
    decide
  · intro hthrough
    have hsame := (hinjective (hbehind hthrough)).1
    rw [hpackage, hpackage'] at hsame
    revert hsame
    decide

end Stubsmith
