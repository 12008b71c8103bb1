import Stubsmith.Proofs.Pass.FileText

/-!
# Passes over joined corpora

Nothing is carried over from one declaration to the next. So what a pass has to show for two corpora
in a row is what it has to show for the first followed by what it has to show for the second
(`runPass_append`), on whatever sinks that do not fail. In particular one declaration more, wherever
it stands and whatever is wrong with it, only adds its own part.
-/

namespace Stubsmith

/-- What a pass has to show for its corpus. -/
structure PassYield where
  functions : List String
  failed : List String
  /-- The names of the declarations that are marked invalid. -/
  deferred : List String
  diagnostics : List Diagnostic
  opensFile : Bool
  /-- What the file holds behind the package line. -/
  body : String

/-- One yield behind another: the lists and the texts follow each other, and there is a file if
there is one for either. -/
instance : Append PassYield where
  append x y :=
    { functions := x.functions ++ y.functions
      failed := x.failed ++ y.failed
      deferred := x.deferred ++ y.deferred
      diagnostics := x.diagnostics ++ y.diagnostics
      opensFile := x.opensFile || y.opensFile
      body := x.body ++ y.body }

/-- The files with the body behind the package line: one if a file is opened, else none. -/
def PassYield.files (c : Configuration) (y : PassYield) : List MemoryUnit :=
  if y.opensFile then
    [{ package := c.package, fileName := c.fileName
       content := packageLine c.package ++ y.body, closed := true }]
  else []

/-- The pass comes to its end and shows `y`: its output lists the names, it reports the diagnostics
behind those that were in the log, and its file has the body. -/
structure PassYields {σ : Type} (S : Sink σ) (c : Configuration) (corpus : List Declaration) (s : σ)
    (log : Log) (y : PassYield) : Prop where
  outcome : ∃ summary, (runPass S c corpus s log).outcome = .ok summary ∧
    summary.functions = y.functions ∧ summary.failed = y.failed ∧
    summary.deferred.map (·.name) = y.deferred
  reported : (runPass S c corpus s log).log = log.reportAll y.diagnostics
  files : writtenFiles S c corpus s log = y.files c
  body_of_no_file : y.opensFile = false → y.body = ""

/-- What a pass over the corpus shows if nothing fails. -/
def corpusYield (c : Configuration) (corpus : List Declaration) : PassYield :=
  let selected := selection corpus c.marker
  { functions := selected.filterMap (·.cleanName? c)
    failed := (failing c selected).map (·.name)
    deferred := (selected.filter (!·.valid)).map (·.name)
    diagnostics := passDiagnostics c selected
    opensFile := !selected.isEmpty
    body := String.join (selected.filterMap (·.writtenText? c)) }

/-- Every part of what is shown is collected from the selected declarations one by one. -/
theorem corpusYield_append (c : Configuration) (xs ys : List Declaration) :
    corpusYield c (xs ++ ys) = corpusYield c xs ++ corpusYield c ys := by
  have hselection : selection (xs ++ ys) c.marker
      = selection xs c.marker ++ selection ys c.marker := List.filter_append ..
  have hempty : (!(selection xs c.marker ++ selection ys c.marker).isEmpty)
      = (!(selection xs c.marker).isEmpty || !(selection ys c.marker).isEmpty) := by
    cases selection xs c.marker with
    | nil => rfl
    | cons decl rest => rfl
  simp only [corpusYield, hselection, hempty, failing, passDiagnostics, List.filterMap_append,
    List.filter_append, List.map_append, List.flatMap_append, String.join_append]
  rfl

/-- A pass on a sink that never fails shows what its corpus calls for. -/
theorem Sink.NeverFails.passYields {σ : Type} {S : Sink σ} (hS : S.NeverFails) (c : Configuration)
    (corpus : List Declaration) (s : σ) (log : Log) :
    PassYields S c corpus s log (corpusYield c corpus) where
  outcome := ⟨_, hS.outcome_runPass c corpus s log, rfl, rfl, rfl⟩
  reported := hS.log_runPass c corpus s log
  files := by
    rw [hS.writtenFiles_eq, passFiles, PassYield.files]
    cases hselected : selection corpus c.marker with
    | nil => simp [corpusYield, hselected]
    | cons decl rest => simp [corpusYield, hselected, passTexts, String.join_cons]
  body_of_no_file := by
    intro hnone
    have hselected : selection corpus c.marker = [] := by simpa [corpusYield] using hnone
    simp [corpusYield, hselected]

/-- **Declarations are processed independently.** On sinks that never fail, a pass over two corpora
in a row shows what a pass over the first shows, followed by what a pass over the second shows; and
a declaration between the two adds what it shows alone and changes nothing before or behind it. -/
theorem runPass_append {σ τ υ : Type} {S : Sink σ} {T : Sink τ} {U : Sink υ} (hS : S.NeverFails)
    (hT : T.NeverFails) (hU : U.NeverFails) (c : Configuration) (xs ys : List Declaration)
    (s : σ) (t : τ) (u : υ) (logS logT logU : Log) :
    ∃ x y, PassYields S c xs s logS x ∧ PassYields T c ys t logT y ∧
      PassYields U c (xs ++ ys) u logU (x ++ y) ∧
      ∀ decl, ∃ own, PassYields U c [decl] u logU own ∧
        PassYields U c (xs ++ decl :: ys) u logU (x ++ own ++ y) := by
  refine ⟨corpusYield c xs, corpusYield c ys, hS.passYields c xs s logS,
    hT.passYields c ys t logT, ?_, ?_⟩
  · rw [← corpusYield_append]
    exact hU.passYields c (xs ++ ys) u logU
  · intro decl
    refine ⟨corpusYield c [decl], hU.passYields c [decl] u logU, ?_⟩
    rw [← corpusYield_append, ← corpusYield_append, List.append_assoc, List.singleton_append]
    exact hU.passYields c (xs ++ decl :: ys) u logU

/-- A marked object without properties. -/
def plainObject : Declaration :=
  let marker : Annotation := { name := "org.example.Function" }
  { name := "org.example.D", kind := .objectKind
    annotations := [marker.withArgument "erstesArgument" (.text "servus")] }

/-- In memory, `plainObject` behind the broken declarations of `corpusWithGaps`: these fail, and the
file holds its function alone. -/
theorem memory_yields_joined :
    ∃ x y, PassYields MemoryStore.sink {} corpusWithGaps {} {} x ∧
      PassYields MemoryStore.sink {} [plainObject] {} {} y ∧
      PassYields MemoryStore.sink {} (corpusWithGaps ++ [plainObject]) {} {} (x ++ y) ∧
      x.failed = ["org.example.A", "org.example.B"] ∧ y.functions = ["servus"] ∧
      (x ++ y).files {}
        = [{ package := "org.example", fileName := "GeneratedFunctions", closed := true
             content := "package org.example\nfun servus() \x7b\n"
               ++ "    println(\"Hallo aus Funktion -> servus\")\n\x7d\n" }] := by
  have hS := MemoryStore.sink_neverFails
  obtain ⟨x, y, hx, hy, hxy, _⟩ :=
    runPass_append hS hS hS {} corpusWithGaps [plainObject] {} {} {} {} {} {}
  refine ⟨x, y, hx, hy, hxy, ?_, ?_, ?_⟩
  · obtain ⟨_, hok, _, hfailed, _⟩ := hx.outcome
    rw [hS.outcome_runPass] at hok
    cases hok
    rw [← hfailed]
    decide
  · obtain ⟨_, hok, hfunctions, _, _⟩ := hy.outcome
    rw [hS.outcome_runPass] at hok
    cases hok
    rw [← hfunctions]
    decide
  · rw [← hxy.files, hS.writtenFiles_eq]
    decide

end Stubsmith
