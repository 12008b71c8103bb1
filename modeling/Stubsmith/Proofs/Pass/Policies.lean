import Mathlib.Data.List.Basic
import Stubsmith.Proofs.Pass.FileText

/-!
# The two policies compared

Under `discard` and under `keepPartial` a declaration is found to be at fault or not alike. The
policies differ in how many of its faults are reported and in whether its function is written in
spite of them. `runPass_discard_keepPartial` carries this from one declaration to whole passes.
-/

namespace Stubsmith

open Kotlin

/-! ## One declaration -/

section

variable (c : Configuration) (decl : Declaration)

/-- Under `discard` a declaration has the first of the faults that it has under `keepPartial`. -/
theorem Declaration.faults_discard :
    decl.faults (c.under .discard) = (decl.faults (c.under .keepPartial)).take 1 := by
  rcases requestedName_under_cases c decl with ⟨fault, h⟩ | ⟨name, h⟩
  · rw [faults_of_error (h .discard), faults_of_error (h .keepPartial)]
    rfl
  · rw [faults_of_ok (h .discard), faults_of_ok (h .keepPartial)]
    rfl

/-- Under `discard` the first diagnostic of the declaration is reported. -/
theorem Declaration.diagnostics_discard :
    decl.diagnostics (c.under .discard)
      = (decl.diagnostics (c.under .keepPartial)).head?.toList := by
  rw [diagnostics, diagnostics, faults_discard]
  cases decl.faults (c.under .keepPartial) with
  | nil => rfl
  | cons fault others => rfl

/-- A declaration is at fault under both policies or under neither. -/
theorem Declaration.isEmpty_faults_discard :
    (decl.faults (c.under .discard)).isEmpty = (decl.faults (c.under .keepPartial)).isEmpty := by
  rw [faults_discard]
  cases decl.faults (c.under .keepPartial) with
  | nil => rfl
  | cons fault others => rfl

/-- The functions listed are the same under both policies. -/
theorem Declaration.cleanName?_discard :
    decl.cleanName? (c.under .discard) = decl.cleanName? (c.under .keepPartial) := by
  rcases requestedName_under_cases c decl with ⟨fault, h⟩ | ⟨name, h⟩
  · rw [cleanName?_of_error (h .discard), cleanName?_of_error (h .keepPartial)]
  · rw [cleanName?_of_ok (h .discard), cleanName?_of_ok (h .keepPartial)]

/-- Under `discard` a declaration with a gap has no block, and any other the block that it has under
`keepPartial`. -/
theorem declarationBlock_discard :
    declarationBlock (c.under .discard) decl
      = if decl.HasGap then "" else declarationBlock (c.under .keepPartial) decl := by
  rcases requestedName_under_cases c decl with ⟨fault, h⟩ | ⟨name, h⟩
  · rw [declarationBlock_of_error (h .discard), declarationBlock_of_error (h .keepPartial),
      ite_self]
  · rw [declarationBlock_of_ok (h .discard), declarationBlock_of_ok (h .keepPartial)]
    simp [Configuration.under]

end

/-! ## Whole passes -/

section

variable (c : Configuration) (decls : List Declaration)

/-- A declaration that is not at fault has no diagnostics. -/
theorem passDiagnostics_eq_failing :
    passDiagnostics c decls = (failing c decls).flatMap (·.diagnostics c) := by
  induction decls with
  | nil => rfl
  | cons decl rest ih =>
      unfold passDiagnostics failing at ih ⊢
      rw [List.flatMap_cons, ih]
      -- a declaration that is filtered out would not have reported anything
      cases hfaults : decl.faults c with
      | nil => simp [hfaults, Declaration.diagnostics]
      | cons fault others => simp [hfaults]

/-- Under `discard` the first diagnostics of the declarations at fault are reported. -/
theorem passDiagnostics_discard :
    passDiagnostics (c.under .discard) decls
      = (failing (c.under .keepPartial) decls).filterMap
          fun decl => (decl.diagnostics (c.under .keepPartial)).head? := by
  rw [passDiagnostics_eq_failing]
  simp only [failing, Declaration.isEmpty_faults_discard, Declaration.diagnostics_discard]
  rw [List.filterMap_eq_flatMap_toList]

/-- The output does not depend on the policy. -/
theorem passSummary_discard :
    passSummary (c.under .discard) decls = passSummary (c.under .keepPartial) decls := by
  unfold passSummary
  simp only [failing, Declaration.cleanName?_discard, Declaration.isEmpty_faults_discard]

/-- Under `discard` the blocks of declarations with gaps are missing. -/
theorem join_declarationBlock_discard :
    String.join (decls.map (declarationBlock (c.under .discard)))
      = String.join ((decls.filter fun decl => ¬ decl.HasGap).map
          (declarationBlock (c.under .keepPartial))) := by
  induction decls with
  | nil => rfl
  | cons decl rest ih =>
      rw [List.map_cons, String.join_cons, ih, declarationBlock_discard]
      by_cases hgap : decl.HasGap
      · rw [if_pos hgap, List.filter_cons_of_neg (by simpa using hgap), String.empty_append]
      · rw [if_neg hgap, List.filter_cons_of_pos (by simpa using hgap), List.map_cons,
          String.join_cons]

end

/-- **Discarding and keeping partial functions come to the same verdicts.** On sinks that never fail
passes under the two policies have the same output. With the groups of diagnostics that are reported
under `keepPartial`, one for each declaration at fault, the first of each group is reported under
`discard`. The files differ by the blocks of the declarations that have gaps. -/
theorem runPass_discard_keepPartial {σ τ : Type} {S : Sink σ} {T : Sink τ} (hS : S.NeverFails)
    (hT : T.NeverFails) (c : Configuration) (corpus : List Declaration) (s : σ) (t : τ)
    (log : Log) :
    let discard := runPass S (c.under .discard) corpus s log
    let keep := runPass T (c.under .keepPartial) corpus t log
    let discardFiles := writtenFiles S (c.under .discard) corpus s log
    let keepFiles := writtenFiles T (c.under .keepPartial) corpus t log
    let selected := selection corpus c.marker
    let failed := failing (c.under .keepPartial) selected
    let group := fun decl : Declaration => decl.diagnostics (c.under .keepPartial)
    let block := declarationBlock (c.under .keepPartial)
    (∃ summary, discard.outcome = .ok summary ∧ keep.outcome = .ok summary ∧
      summary.failed = failed.map (·.name)) ∧
    (∀ decl ∈ failed, group decl ≠ []) ∧
    keep.log = log.reportAll (failed.flatMap group) ∧
    discard.log = log.reportAll (failed.filterMap fun decl => (group decl).head?) ∧
    (selected = [] → keepFiles = [] ∧ discardFiles = []) ∧
    (selected ≠ [] → keepFiles = [blockFile c (selected.map block)] ∧
      discardFiles = [blockFile c ((selected.filter fun decl => ¬ decl.HasGap).map block)]) := by
  intro discard keep discardFiles keepFiles selected failed group block
  have hkeepFiles : keepFiles = passFiles (c.under .keepPartial) selected :=
    hT.writtenFiles_eq (c.under .keepPartial) corpus t log
  have hdiscardFiles : discardFiles = passFiles (c.under .discard) selected :=
    hS.writtenFiles_eq (c.under .discard) corpus s log
  refine ⟨⟨passSummary (c.under .keepPartial) selected, ?_, ?_, rfl⟩, ?_, ?_, ?_, ?_, ?_⟩
  · rw [← passSummary_discard]
    exact hS.outcome_runPass (c.under .discard) corpus s log
  · exact hT.outcome_runPass (c.under .keepPartial) corpus t log
  · intro decl hdecl
    have hfaults := (List.mem_filter.mp hdecl).2
    simpa [group, Declaration.diagnostics] using hfaults
  · rw [← passDiagnostics_eq_failing]
    exact hT.log_runPass (c.under .keepPartial) corpus t log
  · rw [← passDiagnostics_discard]
    exact hS.log_runPass (c.under .discard) corpus s log
  · intro hselected
    rw [hkeepFiles, hdiscardFiles, hselected]
    exact ⟨rfl, rfl⟩
  · intro hselected
    refine ⟨?_, ?_⟩
    · rw [hkeepFiles, passFiles_eq_blockFile _ hselected]
      rfl
    · rw [hdiscardFiles, passFiles_eq_blockFile _ hselected, blockFile,
        join_declarationBlock_discard]
      rfl

/-- In memory nothing fails under either policy. In `corpusWithGaps` two declarations are at fault,
the first of them twice, and without its block only the package line is left. -/
theorem memory_discard_keepPartial :
    let discard := ({} : Configuration).under .discard
    let keep := ({} : Configuration).under .keepPartial
    ((runPass MemoryStore.sink keep corpusWithGaps {} {}).log.diagnostics.map (·.message)
      = ["invalid type argument", "invalid property type",
          "only objects can be annotated with @Function"]) ∧
    ((runPass MemoryStore.sink discard corpusWithGaps {} {}).log.diagnostics.map (·.message)
      = ["invalid type argument", "only objects can be annotated with @Function"]) ∧
    writtenFiles MemoryStore.sink discard corpusWithGaps {} {} = [blockFile {} []] := by
  obtain ⟨_, _, hkeep, hdiscard, _, hfiles⟩ := runPass_discard_keepPartial
    MemoryStore.sink_neverFails MemoryStore.sink_neverFails {} corpusWithGaps {} {} {}
  refine ⟨?_, ?_, ?_⟩
  · rw [hkeep]
    decide
  · rw [hdiscard]
    decide
  · rw [(hfiles (by decide)).2]
    decide

end Stubsmith
