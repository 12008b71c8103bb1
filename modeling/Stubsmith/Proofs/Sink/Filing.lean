import Stubsmith.Proofs.Sink.Trace
import Stubsmith.Sink.File

/-!
# Files that are handed on to be written

The sink of files knows of the disk only that files can be written to it. `FilingStore.sink` is that
sink over any medium and any way of writing to it. With the disk it is the sink of files
(`FilingStore.simulates_fileStore`). With a way of writing that keeps a list of its calls
(`FileWriter.recorded`) it shows what is handed on to be written and with what outcome, and does
nothing else differently (`FilingStore.simulates_recorded`).

Like the sink in memory it only collects the texts of a unit until the unit is closed
(`Sink.Collects`).
-/

namespace Stubsmith

/-- A way of writing a file to a medium: a path and a content are handed on, and the write succeeds
or fails. -/
abbrev FileWriter (μ : Type) :=
  μ → Path → String → μ × Except WriteFault Unit

/-- What was handed on to be written, with what came of it. -/
structure WriteCall where
  path : Path
  content : String
  outcome : Except WriteFault Unit

/-- Writes as before, and keeps a list of the calls. -/
def FileWriter.recorded {μ : Type} (write : FileWriter μ) : FileWriter (μ × List WriteCall) :=
  fun (medium, calls) path content =>
    let (medium, outcome) := write medium path content
    ((medium, calls ++ [{ path, content, outcome }]), outcome)

/-- A medium with the root for the files, the paths written so far in order, and the unit that is
open. -/
structure FilingStore (μ : Type) where
  root : Path
  medium : μ
  written : List Path := []
  current : Option SourceFile := none

namespace FilingStore

variable {μ ν : Type}

/-- The operations on units that become files on the medium. -/
def sink (write : FileWriter μ) : Sink (FilingStore μ) where
  openUnit := fun s package fileName =>
    ({ s with current := some { package, fileName, content := "" } }, .ok ())
  append := fun s text =>
    ({ s with current := s.current.map fun f => { f with content := f.content ++ text } }, .ok ())
  close := fun s =>
    match s.current with
    | none => (s, .ok ())
    | some f =>
      let path := f.path s.root
      match write s.medium path f.content with
      | (medium, .ok _) =>
        ({ s with medium, written := s.written ++ [path], current := none }, .ok ())
      | (medium, .error fault) => ({ s with medium, current := none }, .error (.write fault))

/-- The store with another view of its medium. -/
def mapMedium (f : μ → ν) (s : FilingStore μ) : FilingStore ν :=
  { root := s.root, medium := f s.medium, written := s.written, current := s.current }

/-- The store of files whose medium is the disk. -/
def toFileStore (s : FilingStore Disk) : FileStore :=
  { root := s.root, disk := s.medium, written := s.written, current := s.current }

/-- Over the disk this is the sink of files. -/
theorem simulates_fileStore : (sink Disk.writeFile).Simulates FileStore.sink toFileStore where
  openUnit := fun _ _ _ => rfl
  append := fun _ _ => rfl
  close := by
    rintro ⟨root, disk, written, _ | f⟩
    · rfl
    · simp only [sink, FileStore.sink, toFileStore]
      rcases disk.writeFile (f.path root) f.content with ⟨disk, fault | _⟩
      · rfl
      · rfl

/-- Another view of the medium does not disturb the sink, if writing does not depend on what it
leaves out. -/
theorem simulates_mapMedium {write : FileWriter μ} {other : FileWriter ν} {f : μ → ν}
    (h : ∀ medium path content,
      other (f medium) path content = Prod.map f id (write medium path content)) :
    (sink write).Simulates (sink other) (mapMedium f) where
  openUnit := fun _ _ _ => rfl
  append := fun _ _ => rfl
  close := by
    rintro ⟨root, medium, written, _ | file⟩
    · rfl
    · simp only [sink, mapMedium, h]
      rcases write medium (file.path root) file.content with ⟨medium, fault | _⟩
      · rfl
      · rfl

/-- Keeping a list of the calls does not disturb the sink. -/
theorem simulates_recorded (write : FileWriter μ) :
    (sink write.recorded).Simulates (sink write) (mapMedium Prod.fst) :=
  simulates_mapMedium fun _ _ _ => rfl

end FilingStore

/-! ## Sinks that collect a unit before they do anything with it -/

section

variable {σ : Type} {S : Sink σ} {holding : σ → String → String → String → σ}

/-- Opening and appending only collect text: `holding s package fileName content` is the state that
was `s` before a unit was opened for the package and file name, and has taken `content` since. -/
structure Sink.Collects (S : Sink σ) (holding : σ → String → String → String → σ) : Prop where
  openUnit : ∀ s package fileName,
    S.openUnit s package fileName = (holding s package fileName "", .ok ())
  append : ∀ s package fileName content text,
    S.append (holding s package fileName content) text
      = (holding s package fileName (content ++ text), .ok ())

/-- Texts appended one after another are added, joined, to what the unit holds. -/
theorem Sink.Collects.eq_of_appends (h : S.Collects holding) {s t : σ}
    {package fileName content : String} {texts : List String}
    (happends : S.Appends (holding s package fileName content) texts t) :
    t = holding s package fileName (content ++ String.join texts) := by
  induction texts generalizing content with
  | nil =>
      cases happends
      simp
  | cons text rest ih =>
      cases happends with
      | cons hfirst hrest =>
          rw [h.append] at hfirst
          injection hfirst with hstate
          rw [← hstate] at hrest
          rw [ih hrest, String.join_cons, String.append_assoc]

end

/-- In memory a unit is collected behind those that were opened before. -/
theorem MemoryStore.sink_collects :
    MemoryStore.sink.Collects fun m package fileName content =>
      { finished := m.units, current := some { package, fileName, content } } where
  openUnit := fun _ _ _ => rfl
  append := fun _ _ _ _ _ => rfl

/-- A unit that becomes a file is collected apart from the medium. -/
theorem FilingStore.sink_collects {μ : Type} (write : FileWriter μ) :
    (sink write).Collects fun s package fileName content =>
      { s with current := some { package, fileName, content } } where
  openUnit := fun _ _ _ => rfl
  append := fun _ _ _ _ _ => rfl

end Stubsmith
