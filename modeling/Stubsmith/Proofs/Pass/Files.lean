import Stubsmith.Proofs.Pass.Output
import Stubsmith.Proofs.Sink.Filing

/-!
# Passes over sinks that collect

On a sink that collects a unit before it does anything with it, a pass cannot end before the unit is
closed, and closing decides how it ends (`Sink.Collects.runPass_eq`). In memory it leaves one unit
or none (`units_runPass_memory`). On the sink of files it hands one file on to be written or none,
and the outcome of that write is the outcome of the pass (`runPass_filing`).
-/

namespace Stubsmith

variable {σ μ : Type}

/-- With nothing selected a pass leaves everything as it is. -/
theorem runPass_of_selection_eq_nil (S : Sink σ) {c : Configuration} {corpus : List Declaration}
    (s : σ) (log : Log) (h : selection corpus c.marker = []) :
    runPass S c corpus s log = ⟨s, log, .ok {}⟩ := by
  rw [runPass, h]
  rfl

/-- With something selected a pass collects all its texts in one unit, and how it ends is decided
when that unit is closed. -/
theorem Sink.Collects.runPass_eq {S : Sink σ} {holding : σ → String → String → String → σ}
    (hS : S.Collects holding) {c : Configuration} {corpus : List Declaration} (s : σ) (log : Log)
    (hselected : selection corpus c.marker ≠ []) :
    Stubsmith.runPass S c corpus s log
      = let selected := selection corpus c.marker
        let reported := log.reportAll (passDiagnostics c selected)
        match S.close (holding s c.package c.fileName (String.join (passTexts c selected))) with
        | (closed, .ok _) => ⟨closed, reported, .ok (passSummary c selected)⟩
        | (closed, .error fault) =>
          ⟨closed, reported, .error (.closing c.package c.fileName fault)⟩ := by
  have hrun := passRun_runPass S c corpus s log
  generalize Stubsmith.runPass S c corpus s log = r at hrun ⊢
  cases hrun with
  | untouched hnone => exact absurd hnone hselected
  | openingFails _ hopen =>
      rw [hS.openUnit] at hopen
      cases hopen
  | packageLineFails _ hopen happend =>
      rw [hS.openUnit] at hopen
      cases hopen
      rw [hS.append] at happend
      cases happend
  | declarationFails _ hopen hbefore _ happend =>
      rw [hS.openUnit] at hopen
      cases hopen
      rw [hS.eq_of_appends hbefore, hS.append] at happend
      cases happend
  | closingFails _ hopen happends hclose =>
      rw [hS.openUnit] at hopen
      cases hopen
      rw [hS.eq_of_appends happends, String.empty_append] at hclose
      simp only [hclose]
  | completes _ hopen happends hclose =>
      rw [hS.openUnit] at hopen
      cases hopen
      rw [hS.eq_of_appends happends, String.empty_append] at hclose
      simp only [hclose]

@[simp] theorem MemoryStore.units_empty : ({} : MemoryStore).units = [] := rfl

/-- A pass in memory leaves the file of the selected declarations behind what was there before. -/
theorem units_runPass_memory (c : Configuration) (corpus : List Declaration) (m : MemoryStore)
    (log : Log) :
    (runPass MemoryStore.sink c corpus m log).store.units
      = m.units ++ passFiles c (selection corpus c.marker) := by
  by_cases hselected : selection corpus c.marker = []
  · rw [runPass_of_selection_eq_nil _ _ _ hselected, hselected]
    exact (List.append_nil m.units).symm
  · rw [MemoryStore.sink_collects.runPass_eq _ _ hselected, passFiles,
      if_neg (by simpa using hselected)]
    simp [MemoryStore.sink, MemoryStore.units]

/-- The file of a pass over the selected declarations. -/
def passFile (c : Configuration) (selected : List Declaration) : SourceFile where
  package := c.package
  fileName := c.fileName
  content := String.join (passTexts c selected)

/-- With something selected a pass over the sink of files hands its file on to be written, and it
comes to its end if that file is written. -/
theorem runPass_filing (write : FileWriter μ) {c : Configuration} {corpus : List Declaration}
    (root : Path) (medium : μ) (log : Log) (hselected : selection corpus c.marker ≠ []) :
    runPass (FilingStore.sink write) c corpus { root, medium } log
      = let selected := selection corpus c.marker
        let file := passFile c selected
        let reported := log.reportAll (passDiagnostics c selected)
        match write medium (file.path root) file.content with
        | (medium, .ok _) =>
          ⟨{ root, medium, written := [file.path root] }, reported, .ok (passSummary c selected)⟩
        | (medium, .error fault) =>
          ⟨{ root, medium }, reported, .error (.closing c.package c.fileName (.write fault))⟩ := by
  rw [(FilingStore.sink_collects write).runPass_eq _ _ hselected]
  simp only [FilingStore.sink, passFile]
  rcases write medium (SourceFile.path ⟨c.package, c.fileName, _⟩ root) _ with ⟨after, fault | _⟩
  · rfl
  · rfl

end Stubsmith
