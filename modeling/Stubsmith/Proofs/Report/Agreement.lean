import Stubsmith.Command.Run
import Stubsmith.Proofs.Pass.Accounts
import Stubsmith.Proofs.Pass.FileText
import Stubsmith.Proofs.Pass.Files

/-!
# A check, a preview and a generation tell the same

The three run the same pass over sinks of two kinds. `Manifest.recordedPass` is the pass of a
generation with a list of the files that it hands on to be written. If these can be written, then
the check, the preview and the generation find the same, and the preview shows exactly the files
that were handed on (`Manifest.check_preview_generate_agree`).
-/

namespace Stubsmith

/-! ## What is told -/

/-- What a report says about the pass, apart from files. -/
structure Findings where
  functions : List String
  failed : List String
  deferred : List String
  diagnostics : List Diagnostic
  deriving DecidableEq, Repr

/-- What the verdict says about the pass. -/
def CheckVerdict.findings (r : CheckVerdict) : Findings :=
  ⟨r.functions, r.failed, r.deferred, r.diagnostics⟩

/-- What the report says about the pass. -/
def GenerationReport.findings (r : GenerationReport) : Findings :=
  ⟨r.functions, r.failed, r.deferred, r.diagnostics⟩

/-- The file that was handed on. -/
def WriteCall.planned (call : WriteCall) : PlannedFile :=
  ⟨call.path, call.content⟩

/-- Hands the same file on to be written. -/
def WriteCall.perform (disk : Disk) (call : WriteCall) : Disk :=
  (disk.writeFile call.path call.content).1

/-- The three operations tell the same of the pass, and of the files that were handed on. -/
structure Agreement (calls : List WriteCall) (verdict : CheckVerdict)
    (previewed generated : GenerationReport) : Prop where
  previewed_findings : previewed.findings = verdict.findings
  generated_findings : generated.findings = verdict.findings
  isValid_eq_previewed : verdict.isValid = !previewed.hasErrors
  isValid_eq_generated : verdict.isValid = !generated.hasErrors
  planned : previewed.result = .preview (calls.map (·.planned))
  written : generated.result = .written (calls.map (·.path))

/-! ## Commands that write nothing -/

/-- What is shown of a generation does not touch the disk. -/
theorem Command.disk_generateResult (disk : Disk)
    (outcome : Except CommandFault GenerationReport) :
    (generateResult disk outcome).disk = disk := by
  cases outcome with
  | error fault => rfl
  | ok report => rfl

/-- A check leaves the disk as it is. -/
theorem Command.disk_runCheck (disk : Disk) (config : Path) (json : Bool) :
    (runCheck disk config json).disk = disk := by
  rw [runCheck]
  split
  · rfl
  · split
    · rfl
    · rfl

/-- A dry run leaves the disk as it is. -/
theorem Command.disk_runGenerate_dryRun (disk : Disk) (config output : Path) :
    (runGenerate disk config output true).disk = disk := by
  rw [runGenerate]
  split
  · rfl
  · exact disk_generateResult disk _

/-! ## The recorded pass -/

/-- The store of files without the list of calls. -/
def FilingStore.unrecorded (s : FilingStore (Disk × List WriteCall)) : FileStore :=
  (s.mapMedium Prod.fst).toFileStore

namespace Manifest

/-- The declarations that the pass of the manifest runs over. -/
def selected (m : Manifest) : List Declaration :=
  selection m.declarations m.configuration.marker

/-- The pass of a generation, with a list of the files that are handed on to be written. -/
def recordedPass (m : Manifest) (base : Path) (disk : Disk) :
    PassResult (FilingStore (Disk × List WriteCall)) :=
  runPass (FilingStore.sink (FileWriter.recorded Disk.writeFile)) m.configuration m.declarations
    { root := base, medium := (disk, []) } {}

/-- The files that a generation hands on to be written, in order. -/
def writeCalls (m : Manifest) (base : Path) (disk : Disk) : List WriteCall :=
  (m.recordedPass base disk).store.medium.2

/-- What is recorded when the file of the pass is written. -/
def passCall (m : Manifest) (base : Path) (disk : Disk) : WriteCall :=
  let file := passFile m.configuration m.selected
  { path := file.path base, content := file.content
    outcome := (disk.writeFile (file.path base) file.content).2 }

section

variable (m : Manifest) (base : Path) (disk : Disk)

/-- The recorded pass is the pass of a generation. -/
theorem runPass_eq_recordedPass :
    runPass FileStore.sink m.configuration m.declarations { root := base, disk } {}
      = (m.recordedPass base disk).mapStore FilingStore.unrecorded := by
  have hdisk := FilingStore.simulates_fileStore.runPass m.configuration m.declarations
    { root := base, medium := disk } {}
  have hrecorded := (FilingStore.simulates_recorded Disk.writeFile).runPass m.configuration
    m.declarations { root := base, medium := (disk, []) } {}
  rw [FilingStore.mapMedium] at hrecorded
  rw [hrecorded] at hdisk
  exact hdisk

/-- With something selected the file of the pass is handed on, and the pass comes to its end if that
file is written. -/
theorem recordedPass_of_selected_ne_nil (hselected : m.selected ≠ []) :
    m.recordedPass base disk
      = let call := m.passCall base disk
        let medium := (call.perform disk, [call])
        let reported : Log := ⟨passDiagnostics m.configuration m.selected⟩
        match call.outcome with
        | .ok _ =>
          ⟨{ root := base, medium, written := [call.path] }, reported,
            .ok (passSummary m.configuration m.selected)⟩
        | .error fault =>
          ⟨{ root := base, medium }, reported,
            .error (.closing m.configuration.package m.configuration.fileName (.write fault))⟩ := by
  rw [recordedPass, runPass_filing _ _ _ _ hselected, ← selected]
  simp only [FileWriter.recorded, passCall, WriteCall.perform]
  rcases disk.writeFile ((passFile m.configuration m.selected).path base)
    (passFile m.configuration m.selected).content with ⟨after, fault | _⟩
  · rfl
  · rfl

/-- One file is handed on if something is selected, and none otherwise. -/
theorem writeCalls_eq :
    m.writeCalls base disk = if m.selected.isEmpty then [] else [m.passCall base disk] := by
  rw [writeCalls]
  by_cases hselected : m.selected = []
  · rw [recordedPass, runPass_of_selection_eq_nil _ _ _ hselected, hselected]
    rfl
  · rw [recordedPass_of_selected_ne_nil m base disk hselected, if_neg (by simpa using hselected)]
    simp only
    split
    · rfl
    · rfl

/-- If what is handed on can be written, the pass comes to its end, the disk has what was written,
and these are the paths that are listed. -/
theorem recordedPass_of_written
    (hwritten : ∀ call ∈ m.writeCalls base disk, call.outcome = .ok ()) :
    m.recordedPass base disk
      = let calls := m.writeCalls base disk
        ⟨{ root := base, medium := (calls.foldl WriteCall.perform disk, calls)
           written := calls.map (·.path) },
          ⟨passDiagnostics m.configuration m.selected⟩,
          .ok (passSummary m.configuration m.selected)⟩ := by
  rw [writeCalls_eq] at hwritten ⊢
  by_cases hselected : m.selected = []
  · rw [recordedPass, runPass_of_selection_eq_nil _ _ _ hselected, hselected]
    rfl
  · rw [if_neg (by simpa using hselected)] at hwritten ⊢
    have hok : (m.passCall base disk).outcome = .ok () :=
      hwritten _ (List.mem_singleton_self _)
    rw [recordedPass_of_selected_ne_nil m base disk hselected]
    simp only [hok]
    rfl

/-- The files that are handed on are those that are left in memory. -/
theorem map_planned_writeCalls :
    (m.writeCalls base disk).map (·.planned)
      = m.passInMemory.store.units.map (plannedFile base) := by
  rw [writeCalls_eq, passInMemory, units_runPass_memory, MemoryStore.units_empty, List.nil_append,
    ← selected, passFiles]
  split
  · rfl
  · rfl

/-- One file is handed on exactly if some declaration carries the marker. -/
theorem length_writeCalls :
    (m.writeCalls base disk).length
      = if ∃ decl ∈ m.declarations, ∃ a ∈ decl.annotations, a.name = m.configuration.marker then 1
        else 0 := by
  have hsome := selection_ne_nil_iff m.declarations m.configuration.marker
  rw [← selected] at hsome
  rw [writeCalls_eq]
  by_cases hselected : m.selected = []
  · rw [if_pos (by simpa using hselected), if_neg fun h => hsome.mpr h hselected]
    rfl
  · rw [if_neg (by simpa using hselected), if_pos (hsome.mp hselected)]
    rfl

/-! ## The three operations -/

/-- What the passes of the three operations find. -/
def findings : Findings :=
  let summary := passSummary m.configuration m.selected
  ⟨summary.functions, summary.failed, summary.deferred.map (·.name),
    passDiagnostics m.configuration m.selected⟩

/-- A pass in memory finds what there is to be found. -/
theorem passInMemory_eq :
    m.passInMemory.log = ⟨passDiagnostics m.configuration m.selected⟩ ∧
      m.passInMemory.outcome = .ok (passSummary m.configuration m.selected) :=
  ⟨MemoryStore.sink_neverFails.log_runPass m.configuration m.declarations {} {},
    MemoryStore.sink_neverFails.outcome_runPass m.configuration m.declarations {} {}⟩

/-- A check always has a verdict. -/
theorem exists_check_eq_ok (configPath : Path) :
    ∃ verdict, m.check configPath = .ok verdict ∧ verdict.findings = m.findings := by
  obtain ⟨hlog, hok⟩ := m.passInMemory_eq
  rw [check]
  simp only [hok, hlog]
  exact ⟨_, rfl, rfl⟩

/-- A preview always has a report, and shows what would be handed on to be written. -/
theorem exists_preview_eq_ok :
    ∃ previewed, m.preview base = .ok previewed ∧ previewed.findings = m.findings ∧
      previewed.result = .preview ((m.writeCalls base disk).map (·.planned)) := by
  obtain ⟨hlog, hok⟩ := m.passInMemory_eq
  rw [preview, map_planned_writeCalls]
  simp only [hok, hlog]
  exact ⟨_, rfl, rfl, rfl⟩

/-- If what is handed on can be written, a generation has a report. -/
theorem exists_generate_eq_ok
    (hwritten : ∀ call ∈ m.writeCalls base disk, call.outcome = .ok ()) :
    ∃ generated, m.generate base disk
        = ((m.writeCalls base disk).foldl WriteCall.perform disk, .ok generated) ∧
      generated.findings = m.findings ∧
      generated.result = .written ((m.writeCalls base disk).map (·.path)) := by
  rw [generate]
  simp only [runPass_eq_recordedPass, m.recordedPass_of_written base disk hwritten]
  exact ⟨_, rfl, rfl, rfl⟩

/-- **Check, preview and generation agree.** Recording what is handed on to be written does not
disturb the pass of a generation. If all of it can be written, the three operations succeed, tell
the same of the pass, and the files shown are those handed on. There is one exactly if some
declaration carries the marker. A check and a preview leave every disk as it is. -/
theorem check_preview_generate_agree (configPath : Path)
    (hwritten : ∀ call ∈ m.writeCalls base disk, call.outcome = .ok ()) :
    let calls := m.writeCalls base disk
    runPass FileStore.sink m.configuration m.declarations { root := base, disk } {}
        = (m.recordedPass base disk).mapStore FilingStore.unrecorded ∧
      (∃ verdict previewed generated,
        m.check configPath = .ok verdict ∧
        m.preview base = .ok previewed ∧
        m.generate base disk = (calls.foldl WriteCall.perform disk, .ok generated) ∧
        Agreement calls verdict previewed generated) ∧
      calls.length
        = (if ∃ decl ∈ m.declarations, ∃ a ∈ decl.annotations, a.name = m.configuration.marker
          then 1 else 0) ∧
      (∀ d manifest json, (Command.run d (.check manifest json)).disk = d) ∧
      ∀ d manifest output, (Command.run d (.generate manifest output true)).disk = d := by
  refine ⟨m.runPass_eq_recordedPass base disk, ?_, m.length_writeCalls base disk, ?_, ?_⟩
  · obtain ⟨verdict, hcheck, hverdict⟩ := m.exists_check_eq_ok configPath
    obtain ⟨previewed, hpreview, hpreviewed, hplanned⟩ := m.exists_preview_eq_ok base disk
    obtain ⟨generated, hgenerate, hgenerated, hpaths⟩ := m.exists_generate_eq_ok base disk hwritten
    have hdiagnostics : ∀ report : GenerationReport, report.findings = m.findings →
        verdict.isValid = !report.hasErrors := by
      intro report hreport
      rw [← hverdict] at hreport
      have hsame := congrArg Findings.diagnostics hreport
      simp only [GenerationReport.findings, CheckVerdict.findings] at hsame
      rw [CheckVerdict.isValid, GenerationReport.hasErrors, hsame]
    exact ⟨verdict, previewed, generated, hcheck, hpreview, hgenerate,
      { previewed_findings := hpreviewed.trans hverdict.symm
        generated_findings := hgenerated.trans hverdict.symm
        isValid_eq_previewed := hdiagnostics previewed hpreviewed
        isValid_eq_generated := hdiagnostics generated hgenerated
        planned := hplanned
        written := hpaths }⟩
  · intro d manifest json
    exact Command.disk_runCheck d (.ofText manifest) json
  · intro d manifest output
    exact Command.disk_runGenerate_dryRun d (.ofText manifest) (.ofText output)

end

end Manifest

/-- A manifest whose declarations are clean, at fault and marked invalid. -/
def mixedManifest : Manifest where
  configuration := keepingPartial
  declarations := mixedCorpus

/-- On an empty disk the one file of `mixedManifest` can be written, and the three operations
agree. -/
theorem mixedManifest_agree :
    ∃ verdict previewed generated,
      mixedManifest.check (.ofText "fungen.toml") = .ok verdict ∧
      mixedManifest.preview (.ofText "out") = .ok previewed ∧
      (mixedManifest.generate (.ofText "out") {}).2 = .ok generated ∧
      previewed.findings = verdict.findings ∧
      generated.findings = verdict.findings ∧
      verdict.isValid = false ∧
      generated.result = .written [.ofText "out/org/example/GeneratedFunctions.kt"] := by
  have hwritten : ∀ call ∈ mixedManifest.writeCalls (.ofText "out") {}, call.outcome = .ok () := by
    rw [Manifest.writeCalls_eq]
    decide
  obtain ⟨_, ⟨verdict, previewed, generated, hcheck, hpreview, hgenerate, hagree⟩, _⟩ :=
    mixedManifest.check_preview_generate_agree (.ofText "out") {} (.ofText "fungen.toml") hwritten
  refine ⟨verdict, previewed, generated, hcheck, hpreview, ?_, hagree.previewed_findings,
    hagree.generated_findings, ?_, ?_⟩
  · rw [hgenerate]
  · obtain ⟨_, hok, hfindings⟩ := mixedManifest.exists_check_eq_ok (.ofText "fungen.toml")
    rw [hcheck] at hok
    cases hok
    have hdiagnostics : verdict.diagnostics = mixedManifest.findings.diagnostics :=
      congrArg Findings.diagnostics hfindings
    rw [CheckVerdict.isValid, hdiagnostics]
    decide
  · rw [hagree.written, Manifest.writeCalls_eq]
    decide

end Stubsmith
