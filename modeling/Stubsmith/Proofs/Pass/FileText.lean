import Stubsmith.Proofs.Pass.Output

/-!
# The text of a generated file

`expectedFiles` says what a successful pass leaves, in terms of the corpus alone: there is no draft,
no indentation depth and no sink in it, only texts that are joined. A file has the package line and
then one block for every marked declaration, in the order of the corpus (`blockFile`). The block is
empty if the declaration names no function or is discarded (`declarationBlock`), and else it is the
text of that function (`functionBlock`).
-/

namespace Stubsmith

open Kotlin

/-! ## Blocks -/

namespace Declaration

/-- Whether some valid property has a type with a part that was not resolved. -/
def HasGap (decl : Declaration) : Prop :=
  ∃ p ∈ decl.properties, p.valid = true ∧ p.type.gaps .property ≠ []

instance (decl : Declaration) : Decidable decl.HasGap :=
  inferInstanceAs (Decidable (∃ p ∈ decl.properties, p.valid = true ∧ p.type.gaps .property ≠ []))

/-- A declaration has a gap exactly if there is a fault to report for one. -/
theorem hasGap_iff (decl : Declaration) :
    decl.HasGap ↔ gapFaults decl.name decl.parameters ≠ [] := by
  rw [Ne, gapFaults_eq_nil_iff]
  simp [HasGap, parameters]

end Declaration

/-- What the declaration contributes to the file. -/
def declarationBlock (c : Configuration) (decl : Declaration) : String :=
  match decl.kind, decl.givenName? c with
  | .objectKind, some name =>
    if c.onGap = .discard ∧ decl.HasGap then ""
    else functionBlock name (decl.properties.filter (·.valid))
  | _, _ => ""

/-- The block of a declaration that names a function. -/
theorem declarationBlock_of_ok {c : Configuration} {decl : Declaration} {name : String}
    (h : requestedName c decl = .ok name) :
    declarationBlock c decl
      = if c.onGap = .discard ∧ decl.HasGap then "" else functionBlock name decl.parameters := by
  obtain ⟨hkind, hname⟩ := (requestedName_eq_ok_iff c decl name).mp h
  rw [declarationBlock, hkind, hname]
  rfl

/-- The block of a declaration that names no function. -/
theorem declarationBlock_of_error {c : Configuration} {decl : Declaration} {fault : RenderFault}
    (h : requestedName c decl = .error fault) : declarationBlock c decl = "" := by
  unfold declarationBlock
  split
  · next name hkind hname =>
      rw [(requestedName_eq_ok_iff c decl name).mpr ⟨hkind, hname⟩] at h
      cases h
  · rfl

/-- The text for the sink is the block of the declaration, and where there is none the block is
empty. -/
theorem getD_writtenText? (c : Configuration) (decl : Declaration) :
    (decl.writtenText? c).getD "" = declarationBlock c decl := by
  rw [Declaration.writtenText?_eq_map]
  cases h : requestedName c decl with
  | error fault =>
      rw [declarationBlock_of_error h, Declaration.writtenFunction?_of_error h]
      rfl
  | ok name =>
      rw [declarationBlock_of_ok h, Declaration.writtenFunction?_of_ok h]
      simp only [Declaration.hasGap_iff]
      split
      · rfl
      · rfl

/-- The texts of declarations, joined, are their blocks. -/
theorem join_filterMap_writtenText? (c : Configuration) (decls : List Declaration) :
    String.join (decls.filterMap (·.writtenText? c))
      = String.join (decls.map (declarationBlock c)) := by
  induction decls with
  | nil => rfl
  | cons decl rest ih =>
      rw [List.map_cons, String.join_cons, ← ih, ← getD_writtenText?]
      cases htext : decl.writtenText? c with
      | none => simp [htext]
      | some text => simp [htext]

/-! ## Files -/

/-- A closed file with the package line and blocks. -/
def blockFile (c : Configuration) (blocks : List String) : MemoryUnit where
  package := c.package
  fileName := c.fileName
  content := "package " ++ c.package ++ "\n" ++ String.join blocks
  closed := true

/-- The files that a pass leaves: one if a declaration carries the marker, else none. -/
def expectedFiles (c : Configuration) (corpus : List Declaration) : List MemoryUnit :=
  if ∃ decl ∈ corpus, ∃ a ∈ decl.annotations, a.name = c.marker then
    [blockFile c ((selection corpus c.marker).map (declarationBlock c))]
  else []

/-- With something selected a successful pass leaves the file with all blocks. -/
theorem passFiles_eq_blockFile (c : Configuration) {selected : List Declaration}
    (h : selected ≠ []) :
    passFiles c selected = [blockFile c (selected.map (declarationBlock c))] := by
  rw [passFiles, if_neg (by simpa using h), passTexts, String.join_cons,
    join_filterMap_writtenText?]
  rfl

/-- Something is selected exactly if a declaration carries the marker. -/
theorem selection_ne_nil_iff (corpus : List Declaration) (marker : String) :
    selection corpus marker ≠ [] ↔ ∃ decl ∈ corpus, ∃ a ∈ decl.annotations, a.name = marker := by
  simp [selection, Declaration.isAnnotatedWith]

/-- The files of a successful pass are the expected ones. -/
theorem passFiles_eq_expectedFiles (c : Configuration) (corpus : List Declaration) :
    passFiles c (selection corpus c.marker) = expectedFiles c corpus := by
  unfold expectedFiles
  by_cases hselected : selection corpus c.marker = []
  · have hnone : ¬ ∃ decl ∈ corpus, ∃ a ∈ decl.annotations, a.name = c.marker :=
      fun h => (selection_ne_nil_iff corpus c.marker).mpr h hselected
    rw [if_neg hnone, hselected]
    rfl
  · have hsome := (selection_ne_nil_iff corpus c.marker).mp hselected
    rw [if_pos hsome]
    exact passFiles_eq_blockFile c hselected

/-- **The bytes a pass writes.** If no operation on the sink fails, the pass has an output, and its
operations leave exactly the expected files. -/
theorem runPass_writes_expectedFiles {σ : Type} (S : Sink σ) (c : Configuration)
    (corpus : List Declaration) (s : σ) (log : Log)
    (hsucceeded : ∀ e ∈ (runPass S.traced c corpus (s, []) log).store.2, e.succeeded = true) :
    let r := runPass S.traced c corpus (s, []) log
    runPass S c corpus s log = r.mapStore Prod.fst ∧
      (∃ summary, r.outcome = .ok summary) ∧
      writtenFiles S c corpus s log = expectedFiles c corpus := by
  have hrun := passRun_runPass S.traced c corpus (s, []) log
  obtain ⟨summary, hok⟩ := hrun.exists_ok_iff.mpr hsucceeded
  refine ⟨S.traced_simulates.runPass c corpus (s, []) log, ⟨summary, hok⟩, ?_⟩
  rw [writtenFiles, hrun.filesOf_of_ok hok, passFiles_eq_expectedFiles]

/-- A marked object with a parameter that has a gap inside and a last one without any type, a marked
class, and an object that is not marked. -/
def corpusWithGaps : List Declaration :=
  let marker : Annotation :=
    .withArgument { name := "org.example.Function" } "erstesArgument" (.text "hallo")
  let list : TypeRef := (TypeRef.named "List").withArgument { variance := .covariant }
  [ { name := "org.example.A", kind := .objectKind, annotations := [marker]
      properties := [.bare "a" list.asNullable, .bare "b" .unresolved] },
    { name := "org.example.B", kind := .classKind, annotations := [marker] },
    { name := "org.example.C", kind := .objectKind } ]

/-- The options of a pass that leaves gaps out of what it writes. -/
def keepingPartial : Configuration :=
  { onGap := .keepPartial }

/-- In memory nothing fails, and around the gaps of `corpusWithGaps` the file is as expected. -/
theorem memory_writes_expectedFiles :
    writtenFiles MemoryStore.sink keepingPartial corpusWithGaps {} {}
      = [{ package := "org.example", fileName := "GeneratedFunctions", closed := true
           content := "package org.example\nfun hallo(\n    a: List<out >?,\n    b: ) \x7b\n"
             ++ "    println(\"Hallo aus Funktion -> hallo\")\n\x7d\n" }] := by
  have hrun := passRun_runPass MemoryStore.sink.traced keepingPartial corpusWithGaps ({}, []) {}
  have hok := MemoryStore.sink_neverFails.traced.exists_ok keepingPartial corpusWithGaps ({}, []) {}
  obtain ⟨_, _, hfiles⟩ := runPass_writes_expectedFiles MemoryStore.sink keepingPartial
    corpusWithGaps {} {} (hrun.exists_ok_iff.mp hok)
  rw [hfiles]
  decide

end Stubsmith
