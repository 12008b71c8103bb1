import Stubsmith.Proofs.Sink.Filing
import Stubsmith.Proofs.Sink.Scope

/-!
# Units one after another

A sink is used for several units in turn: each is opened, given texts and then closed or dropped
(`Sink.useUnits`). For a sink that only collects the texts of a unit it makes no difference to what
becomes of them whether the unit is closed or dropped (`Sink.Collects.useUnit_fst`). In memory there
is a closed unit for every use, and the first one with a key is found
(`MemoryStore.units_useUnits`, `MemoryStore.content?_useUnits`).
-/

namespace Stubsmith

/-- A use of a sink for one unit. -/
structure UnitScript where
  package : String
  fileName : String
  /-- What is appended, in order. -/
  texts : List String
  /-- Whether the unit is dropped and not closed. -/
  dropped : Bool := false

namespace UnitScript

/-- All texts joined. -/
def text (u : UnitScript) : String :=
  String.join u.texts

/-- Whether the unit is for the package and file name. -/
def isFor (package fileName : String) (u : UnitScript) : Bool :=
  u.package == package && u.fileName == fileName

/-- The unit as it is kept in memory in the end. -/
def stored (u : UnitScript) : MemoryUnit where
  package := u.package
  fileName := u.fileName
  content := u.text
  closed := true

/-- The unit as a source file. -/
def file (u : UnitScript) : SourceFile where
  package := u.package
  fileName := u.fileName
  content := u.text

/-- The text of the first unit for a package and file name. -/
def firstText? (scripts : List UnitScript) (package fileName : String) : Option String :=
  (scripts.find? (isFor package fileName)).map text

/-- The text of the last unit for a package and file name. -/
def lastText? (scripts : List UnitScript) (package fileName : String) : Option String :=
  firstText? scripts.reverse package fileName

theorem isFor_iff {package fileName : String} {u : UnitScript} :
    u.isFor package fileName = true ↔ u.package = package ∧ u.fileName = fileName := by
  simp [isFor]

theorem lastText?_concat (scripts : List UnitScript) (u : UnitScript) (package fileName : String) :
    lastText? (scripts ++ [u]) package fileName
      = if u.isFor package fileName then some u.text else lastText? scripts package fileName := by
  rw [lastText?, List.reverse_concat, firstText?, List.find?_cons]
  cases u.isFor package fileName <;> rfl

/-- A unit that is the only one for its key is the first and the last one. -/
theorem firstText?_of_countP_eq_one {scripts : List UnitScript} {u : UnitScript}
    (hu : u ∈ scripts) (honce : scripts.countP (isFor u.package u.fileName) = 1) :
    firstText? scripts u.package u.fileName = some u.text ∧
      lastText? scripts u.package u.fileName = some u.text := by
  obtain ⟨w, hfilter⟩ := List.length_eq_one_iff.mp (List.countP_eq_length_filter ▸ honce)
  have hmem : u ∈ scripts.filter (isFor u.package u.fileName) :=
    List.mem_filter.mpr ⟨hu, isFor_iff.mpr ⟨rfl, rfl⟩⟩
  rw [hfilter, List.mem_singleton] at hmem
  rw [← hmem] at hfilter
  constructor
  · rw [firstText?, ← List.head?_filter, hfilter]
    rfl
  · rw [lastText?, firstText?, ← List.head?_filter, List.filter_reverse, hfilter]
    rfl

/-- There is a last text for every unit. -/
theorem exists_lastText?_eq_some {scripts : List UnitScript} {u : UnitScript}
    (hu : u ∈ scripts) : ∃ text, lastText? scripts u.package u.fileName = some text := by
  have hsome : (scripts.reverse.find? (isFor u.package u.fileName)).isSome = true := by
    rw [List.find?_isSome]
    exact ⟨u, List.mem_reverse.mpr hu, isFor_iff.mpr ⟨rfl, rfl⟩⟩
  obtain ⟨w, hw⟩ := Option.isSome_iff_exists.mp hsome
  exact ⟨w.text, by rw [lastText?, firstText?, hw, Option.map_some]⟩

end UnitScript

namespace Sink

variable {σ : Type} {S : Sink σ}

/-- Uses a sink for one unit, which is dropped in the end. If it is not opened there is nothing else
to do. -/
def useUnit (S : Sink σ) (s : σ) (u : UnitScript) : σ × List (Except SinkFault Unit) :=
  match OutputUnit.openIn S s u.package u.fileName with
  | (unit, .error fault) => (unit.store, [.error fault])
  | (unit, .ok _) =>
    let (unit, appended) := S.scoped.appendEach unit u.texts
    if u.dropped then (unit.drop S, .ok () :: appended)
    else
      let (unit, closed) := unit.close S
      (unit.drop S, .ok () :: appended ++ [closed])

/-- Uses a sink for several units and returns what came of each operation. -/
def useUnits (S : Sink σ) : σ → List UnitScript → σ × List (Except SinkFault Unit)
  | s, [] => (s, [])
  | s, u :: rest =>
    let (s, outcomes) := S.useUnit s u
    let (s, others) := S.useUnits s rest
    (s, outcomes ++ others)

theorem useUnits_append (S : Sink σ) (s : σ) (before after : List UnitScript) :
    S.useUnits s (before ++ after)
      = ((S.useUnits (S.useUnits s before).1 after).1,
          (S.useUnits s before).2 ++ (S.useUnits (S.useUnits s before).1 after).2) := by
  induction before generalizing s with
  | nil => rfl
  | cons u rest ih =>
      simp only [List.cons_append, useUnits, ih, List.append_assoc]

section

variable {holding : σ → String → String → String → σ}

theorem Collects.appendEach (h : S.Collects holding) (s : σ)
    (package fileName content : String) (texts : List String) :
    S.appendEach (holding s package fileName content) texts
      = (holding s package fileName (content ++ String.join texts),
          texts.map fun _ => .ok ()) := by
  induction texts generalizing content with
  | nil => simp [Sink.appendEach]
  | cons text rest ih =>
      rw [Sink.appendEach, h.append]
      simp only [ih, String.join_cons, String.append_assoc, List.map_cons]

/-- Closed or dropped, the unit is handed on with all its texts. -/
theorem Collects.useUnit_fst (h : S.Collects holding) (s : σ) (u : UnitScript) :
    (S.useUnit s u).1 = (S.close (holding s u.package u.fileName u.text)).1 := by
  rw [useUnit, OutputUnit.openIn_of_opened (h.openUnit s u.package u.fileName)]
  simp only [appendEach_scoped, h.appendEach, String.empty_append, OutputUnit.drop_close]
  cases u.dropped <;> rfl

/-- If closing succeeds, all operations do. -/
theorem Collects.useUnit_snd (h : S.Collects holding) {s : σ} {u : UnitScript}
    (hclose : (S.close (holding s u.package u.fileName u.text)).2 = .ok ()) :
    ∀ outcome ∈ (S.useUnit s u).2, outcome = .ok () := by
  have happended : ∀ outcome ∈ u.texts.map fun _ => (.ok () : Except SinkFault Unit),
      outcome = .ok () := by
    intro outcome houtcome
    obtain ⟨_, _, heq⟩ := List.mem_map.mp houtcome
    exact heq.symm
  rw [useUnit, OutputUnit.openIn_of_opened (h.openUnit s u.package u.fileName)]
  simp only [appendEach_scoped, h.appendEach, String.empty_append]
  split
  · exact List.forall_mem_cons.mpr ⟨rfl, happended⟩
  · rw [List.forall_mem_append, List.forall_mem_cons, List.forall_mem_singleton]
    exact ⟨⟨rfl, happended⟩, hclose⟩

end

end Sink

namespace MemoryStore

/-- In memory there is a closed unit for every use, in order, and nothing fails. -/
theorem units_useUnits (m : MemoryStore) (scripts : List UnitScript) :
    (sink.useUnits m scripts).1.units = m.units ++ scripts.map UnitScript.stored ∧
      ∀ outcome ∈ (sink.useUnits m scripts).2, outcome = .ok () := by
  induction scripts generalizing m with
  | nil => exact ⟨(List.append_nil _).symm, nofun⟩
  | cons u rest ih =>
      have hunits : (sink.useUnit m u).1.units = m.units ++ [u.stored] := by
        rw [sink_collects.useUnit_fst]
        exact List.append_nil _
      obtain ⟨hrest, hothers⟩ := ih (sink.useUnit m u).1
      rw [Sink.useUnits]
      refine ⟨?_, List.forall_mem_append.mpr ⟨sink_collects.useUnit_snd rfl, hothers⟩⟩
      rw [hrest, hunits, List.append_assoc, List.singleton_append, List.map_cons]

/-- In memory the first unit for a package and file name is found. -/
theorem content?_useUnits (scripts : List UnitScript) (package fileName : String) :
    (sink.useUnits {} scripts).1.content? package fileName
      = UnitScript.firstText? scripts package fileName := by
  rw [content?, (units_useUnits {} scripts).1, UnitScript.firstText?]
  change Option.map _ (List.find? _ (scripts.map UnitScript.stored)) = _
  rw [List.find?_map, Option.map_map]
  rfl

end MemoryStore

/-- A unit that becomes a file is collected apart from the disk. -/
theorem FileStore.sink_collects :
    FileStore.sink.Collects fun s package fileName content =>
      { s with current := some { package, fileName, content } } where
  openUnit := fun _ _ _ => rfl
  append := fun _ _ _ _ _ => rfl

end Stubsmith
