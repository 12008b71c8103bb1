import Stubsmith.Proofs.Pass.Protocol

/-!
# What a pass leaves when it succeeds

A pass that has an output leaves one file with all its texts, or no file if nothing is selected, and
has reported all diagnostics. File, output and diagnostics depend on the configuration and the
selected declarations alone. On a sink that never fails every pass has an output.
-/

namespace Stubsmith

variable {σ : Type} {S : Sink σ}

/-- The files that a successful pass over the selected declarations leaves. -/
def passFiles (c : Configuration) (selected : List Declaration) : List MemoryUnit :=
  if selected.isEmpty then []
  else [{ package := c.package, fileName := c.fileName
          content := String.join (passTexts c selected), closed := true }]

/-- The files that a pass leaves, whatever the sink itself keeps of them. -/
def writtenFiles (S : Sink σ) (c : Configuration) (corpus : List Declaration) (s : σ) (log : Log) :
    List MemoryUnit :=
  filesOf (runPass S.traced c corpus (s, []) log).store.2

section

variable {c : Configuration} {corpus : List Declaration} {log : Log} {summary : PassSummary}

/-- All diagnostics of the selected declarations are reported. -/
theorem PassRun.log_of_ok {store : σ} {r : PassResult σ} (h : PassRun S c corpus store log r)
    (hok : r.outcome = .ok summary) :
    r.log = log.reportAll (passDiagnostics c (selection corpus c.marker)) := by
  cases h with
  | untouched hselected =>
      rw [hselected]
      simp [passDiagnostics, Log.reportAll]
  | completes _ _ _ _ => rfl
  | _ => simp at hok

/-- The output is that of the selected declarations. -/
theorem PassRun.outcome_of_ok {store : σ} {r : PassResult σ} (h : PassRun S c corpus store log r)
    (hok : r.outcome = .ok summary) :
    r.outcome = .ok (passSummary c (selection corpus c.marker)) := by
  cases h with
  | untouched hselected =>
      rw [hselected]
      rfl
  | completes _ _ _ _ => rfl
  | _ => simp at hok

/-- The operations leave one closed file with all texts, or none. -/
theorem PassRun.filesOf_of_ok {s : σ} {r : PassResult (σ × List SinkEvent)}
    (h : PassRun S.traced c corpus (s, []) log r) (hok : r.outcome = .ok summary) :
    filesOf r.store.2 = passFiles c (selection corpus c.marker) := by
  cases h with
  | untouched hselected =>
      rw [hselected]
      rfl
  | completes hselected hopen happends hclose =>
      rw [trace_allTaken hopen happends hclose, passFiles, if_neg (by simpa using hselected)]
      exact filesOf_unit c.package c.fileName (passTexts c (selection corpus c.marker))
  | _ => simp at hok

end

/-- On a sink that never fails a pass has an output. -/
theorem Sink.NeverFails.exists_ok (hS : S.NeverFails) (c : Configuration)
    (corpus : List Declaration) (store : σ) (log : Log) :
    ∃ summary, (runPass S c corpus store log).outcome = .ok summary := by
  have hrun := passRun_runPass S c corpus store log
  generalize runPass S c corpus store log = r at hrun ⊢
  cases hrun with
  | untouched _ => exact ⟨_, rfl⟩
  | openingFails _ hopen =>
      have htaken := hS.openUnit store c.package c.fileName
      rw [hopen] at htaken
      cases htaken
  | @packageLineFails opened _ _ _ _ happend =>
      have htaken := hS.append opened (packageLine c.package)
      rw [happend] at htaken
      cases htaken
  | @declarationFails _ before _ _ _ _ text _ _ _ _ _ happend =>
      have htaken := hS.append before text
      rw [happend] at htaken
      cases htaken
  | @closingFails _ appended _ _ _ _ _ hclose =>
      have htaken := hS.close appended
      rw [hclose] at htaken
      cases htaken
  | completes _ _ _ _ => exact ⟨_, rfl⟩

/-- On a sink that never fails all diagnostics are reported. -/
theorem Sink.NeverFails.log_runPass (hS : S.NeverFails) (c : Configuration)
    (corpus : List Declaration) (store : σ) (log : Log) :
    (runPass S c corpus store log).log
      = log.reportAll (passDiagnostics c (selection corpus c.marker)) := by
  obtain ⟨summary, hok⟩ := hS.exists_ok c corpus store log
  exact (passRun_runPass S c corpus store log).log_of_ok hok

/-- On a sink that never fails the output is that of the selected declarations. -/
theorem Sink.NeverFails.outcome_runPass (hS : S.NeverFails) (c : Configuration)
    (corpus : List Declaration) (store : σ) (log : Log) :
    (runPass S c corpus store log).outcome
      = .ok (passSummary c (selection corpus c.marker)) := by
  obtain ⟨summary, hok⟩ := hS.exists_ok c corpus store log
  exact (passRun_runPass S c corpus store log).outcome_of_ok hok

/-- On a sink that never fails the files are those of the selected declarations. -/
theorem Sink.NeverFails.writtenFiles_eq (hS : S.NeverFails) (c : Configuration)
    (corpus : List Declaration) (s : σ) (log : Log) :
    writtenFiles S c corpus s log = passFiles c (selection corpus c.marker) := by
  obtain ⟨summary, hok⟩ := hS.traced.exists_ok c corpus (s, []) log
  exact (passRun_runPass S.traced c corpus (s, []) log).filesOf_of_ok hok

end Stubsmith
