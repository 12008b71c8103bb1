import Stubsmith.Manifest.Basic
import Stubsmith.Pass
import Stubsmith.Report.Basic
import Stubsmith.Sink.File
import Stubsmith.Sink.Memory

/-!
# Passes over a manifest

The three things that can be done with a manifest: check it, preview the file that would be
generated, and generate it. All three run the same pass, the first two into memory.
-/

namespace Stubsmith

namespace Manifest

/-- Runs the pass of a manifest into memory. -/
def passInMemory (m : Manifest) : PassResult MemoryStore :=
  runPass MemoryStore.sink m.configuration m.declarations {} {}

/-- Runs the pass and writes nothing. -/
def check (m : Manifest) (configPath : Path) : Except CommandFault CheckVerdict :=
  let pass := m.passInMemory
  match pass.outcome with
  | .error fault => .error (.checking fault)
  | .ok output =>
    .ok { configPath, functions := output.functions, failed := output.failed
          deferred := output.deferred.map (·.name), diagnostics := pass.log.diagnostics }

/-- The report of a pass that came to its end. -/
def generationReport (m : Manifest) (output : PassSummary) (log : Log) (result : GeneratedFiles) :
    GenerationReport :=
  { marker := m.configuration.marker, functions := output.functions, failed := output.failed
    deferred := output.deferred.map (·.name), diagnostics := log.diagnostics, result }

/-- The file that a unit in memory would become below `base`. -/
def plannedFile (base : Path) (u : MemoryUnit) : PlannedFile :=
  let file : SourceFile := { package := u.package, fileName := u.fileName, content := u.content }
  { path := file.path base, content := file.content }

/-- Runs the pass and shows what it would write below `base`. -/
def preview (m : Manifest) (base : Path) : Except CommandFault GenerationReport :=
  let pass := m.passInMemory
  match pass.outcome with
  | .error fault => .error (.generating fault)
  | .ok output =>
    .ok (m.generationReport output pass.log (.preview (pass.store.units.map (plannedFile base))))

/-- Runs the pass and writes the file below `base`. -/
def generate (m : Manifest) (base : Path) (disk : Disk) :
    Disk × Except CommandFault GenerationReport :=
  let pass := runPass FileStore.sink m.configuration m.declarations { root := base, disk } {}
  (pass.store.disk,
    match pass.outcome with
    | .error fault => .error (.generating fault)
    | .ok output => .ok (m.generationReport output pass.log (.written pass.store.written)))

end Manifest

end Stubsmith
