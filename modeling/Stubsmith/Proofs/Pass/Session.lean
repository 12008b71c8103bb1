import Stubsmith.Proofs.Pass.Files

/-!
# Passes that share a sink and a log

Several passes may be run one after another on one sink and one log, each with a configuration and a
corpus of its own. In memory a pass adds behind what it finds exactly what it would have left on its
own (`Session.memory_pass`), so a session adds up what its passes leave on their own
(`Session.memory_run`), and no pass disturbs what the ones before it have left
(`session_passes_isolated`).
-/

namespace Stubsmith

variable {σ : Type}

/-- What a pass is run for. -/
structure PassRequest where
  configuration : Configuration
  corpus : List Declaration

/-- A sink's state and a log that passes share, with the outcomes of the passes so far. -/
structure Session (σ : Type) where
  store : σ
  log : Log := {}
  outcomes : List (Except PassFault PassSummary) := []

namespace Session

/-- One more pass on what the passes before have left. -/
def pass (S : Sink σ) (s : Session σ) (p : PassRequest) : Session σ :=
  let r := runPass S p.configuration p.corpus s.store s.log
  { store := r.store, log := r.log, outcomes := s.outcomes ++ [r.outcome] }

/-- Passes one after another. -/
def run (S : Sink σ) (s : Session σ) (ps : List PassRequest) : Session σ :=
  ps.foldl (pass S) s

theorem run_cons (S : Sink σ) (s : Session σ) (p : PassRequest) (ps : List PassRequest) :
    s.run S (p :: ps) = (s.pass S p).run S ps := rfl

theorem run_append (S : Sink σ) (s : Session σ) (ps qs : List PassRequest) :
    s.run S (ps ++ qs) = (s.run S ps).run S qs :=
  List.foldl_append ..

end Session

namespace PassRequest

/-- What the pass leaves on a sink in memory and a log of its own. -/
def alone (p : PassRequest) : PassResult MemoryStore :=
  runPass MemoryStore.sink p.configuration p.corpus {} {}

/-- What the pass selects. -/
def selected (p : PassRequest) : List Declaration :=
  selection p.corpus p.configuration.marker

theorem units_alone (p : PassRequest) :
    p.alone.store.units = passFiles p.configuration p.selected := by
  rw [alone, units_runPass_memory, MemoryStore.units_empty, List.nil_append]
  rfl

theorem log_alone (p : PassRequest) :
    p.alone.log.diagnostics = passDiagnostics p.configuration p.selected := by
  rw [alone, MemoryStore.sink_neverFails.log_runPass]
  rfl

theorem outcome_alone (p : PassRequest) :
    p.alone.outcome = .ok (passSummary p.configuration p.selected) :=
  MemoryStore.sink_neverFails.outcome_runPass p.configuration p.corpus {} {}

/-- A pass on its own leaves no file if it selects nothing, and else one closed file. -/
theorem units_alone_cases (p : PassRequest) :
    (p.selected = [] ∧ p.alone.store.units = []) ∨
    (p.selected ≠ [] ∧ ∃ file, p.alone.store.units = [file] ∧ file.closed = true ∧
      file.package = p.configuration.package ∧ file.fileName = p.configuration.fileName) := by
  rw [units_alone, passFiles]
  cases p.selected with
  | nil => exact Or.inl ⟨rfl, rfl⟩
  | cons decl rest => exact Or.inr ⟨List.cons_ne_nil decl rest, _, rfl, rfl, rfl, rfl⟩

/-- A pass on its own leaves closed files only. -/
theorem closed_of_mem_units_alone {p : PassRequest} {file : MemoryUnit}
    (h : file ∈ p.alone.store.units) : file.closed = true := by
  rcases p.units_alone_cases with ⟨_, hnone⟩ | ⟨_, only, honly, hclosed, _⟩
  · rw [hnone] at h
    simp at h
  · rw [honly] at h
    rw [List.mem_singleton.mp h]
    exact hclosed

end PassRequest

namespace Session

/-- One pass of a session adds what it leaves on its own. -/
theorem memory_pass (s : Session MemoryStore) (p : PassRequest) :
    (s.pass MemoryStore.sink p).store.units = s.store.units ++ p.alone.store.units ∧
      (s.pass MemoryStore.sink p).log.diagnostics
        = s.log.diagnostics ++ p.alone.log.diagnostics ∧
      (s.pass MemoryStore.sink p).outcomes = s.outcomes ++ [p.alone.outcome] := by
  have hS := MemoryStore.sink_neverFails
  refine ⟨?_, ?_, ?_⟩
  · rw [p.units_alone]
    exact units_runPass_memory p.configuration p.corpus s.store s.log
  · rw [p.log_alone, pass, hS.log_runPass]
    rfl
  · rw [p.outcome_alone, pass, hS.outcome_runPass]
    rfl

/-- A session adds up what its passes leave on their own. -/
theorem memory_run (s : Session MemoryStore) (ps : List PassRequest) :
    (s.run MemoryStore.sink ps).store.units = s.store.units ++ ps.flatMap (·.alone.store.units) ∧
      (s.run MemoryStore.sink ps).log.diagnostics
        = s.log.diagnostics ++ ps.flatMap (·.alone.log.diagnostics) ∧
      (s.run MemoryStore.sink ps).outcomes = s.outcomes ++ ps.map (·.alone.outcome) := by
  induction ps generalizing s with
  | nil => simp [run]
  | cons p rest ih =>
      obtain ⟨hunits, hlog, houtcomes⟩ := s.memory_pass p
      obtain ⟨hunits', hlog', houtcomes'⟩ := ih (s.pass MemoryStore.sink p)
      rw [run_cons, hunits', hlog', houtcomes', hunits, hlog, houtcomes]
      simp [List.append_assoc]

end Session

/-- **Passes over a shared sink and log do not disturb one another.** After any passes, one more
leaves the files and the diagnostics as they were, with its own behind them: the same file, the same
diagnostics and the same output as on a sink and a log of its own. The file is closed, and there is
none exactly if nothing is selected. Between the passes of a session that began with an empty sink
all files are closed. -/
theorem session_passes_isolated (start : Session MemoryStore) (earlier : List PassRequest)
    (p : PassRequest) :
    let before := start.run MemoryStore.sink earlier
    let after := start.run MemoryStore.sink (earlier ++ [p])
    after.store.units = before.store.units ++ p.alone.store.units ∧
      ((p.selected = [] ∧ p.alone.store.units = []) ∨
        (p.selected ≠ [] ∧ ∃ file, p.alone.store.units = [file] ∧ file.closed = true ∧
          file.package = p.configuration.package ∧ file.fileName = p.configuration.fileName)) ∧
      after.log.diagnostics = before.log.diagnostics ++ p.alone.log.diagnostics ∧
      (∃ summary, p.alone.outcome = .ok summary ∧
        after.outcomes = before.outcomes ++ [.ok summary]) ∧
      ∀ file ∈ (({ store := {} } : Session MemoryStore).run MemoryStore.sink earlier).store.units,
        file.closed = true := by
  simp only [Session.run_append]
  obtain ⟨hunits, hlog, houtcomes⟩ := (start.run MemoryStore.sink earlier).memory_pass p
  refine ⟨hunits, p.units_alone_cases, hlog, ⟨_, p.outcome_alone, ?_⟩, ?_⟩
  · rw [← p.outcome_alone]
    exact houtcomes
  · intro file hfile
    rw [(Session.memory_run _ earlier).1, MemoryStore.units_empty, List.nil_append] at hfile
    obtain ⟨q, _, hq⟩ := List.mem_flatMap.mp hfile
    exact PassRequest.closed_of_mem_units_alone hq

end Stubsmith
