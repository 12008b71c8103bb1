import Stubsmith.Fatal
import Stubsmith.Kotlin.Function
import Stubsmith.Sink.Unit

/-!
# A pass

A pass writes the functions of all declarations of a corpus that carry the marker into one unit of a
sink. A declaration that cannot be written is reported and the pass goes on; a fault of the sink
ends it. However the pass ends, the unit is dropped if it was opened, and so its stream is closed.
-/

namespace Stubsmith

/-- What a pass did. -/
structure PassSummary where
  /-- The names of the functions without faults, in order. -/
  functions : List String := []
  /-- The names of the declarations with a reported fault, in order. -/
  failed : List String := []
  /-- The selected declarations that are marked invalid, in order. -/
  deferred : List Declaration := []

/-- Whether nothing was selected. -/
def PassSummary.isEmpty (p : PassSummary) : Bool :=
  p.functions.isEmpty && p.failed.isEmpty

/-- How far a pass has come. -/
structure Progress (σ : Type) where
  store : σ
  log : Log
  functions : List String := []
  failed : List String := []

namespace Progress

variable {σ : Type}

/-- Records the faults of a declaration and counts it as failed. -/
def fail (p : Progress σ) (decl : Declaration) (faults : List Kotlin.RenderFault) : Progress σ :=
  { p with
    log := p.log.reportAll (faults.map (·.toDiagnostic))
    failed := p.failed ++ [decl.name] }

/-- Writes one declaration, on a fresh draft. A fault of the sink is returned beside the progress
made until then. -/
def step (S : Sink σ) (c : Configuration) (p : Progress σ) (decl : Declaration) :
    Progress σ × Option SinkFault :=
  match ({} : Draft).writeFunction c decl with
  | (_, .error fault) => (p.fail decl [fault], none)
  | (draft, .ok function) =>
    match S.append p.store draft.text with
    | (store, .error fault) => ({ p with store }, some fault)
    | (store, .ok _) =>
      let p := { p with store }
      if function.isClean then ({ p with functions := p.functions ++ [function.name] }, none)
      else (p.fail decl function.faults, none)

/-- Writes declarations one after another, up to the first fault of the sink. -/
def run (S : Sink σ) (c : Configuration) (p : Progress σ) :
    List Declaration → Progress σ × Option SinkFault
  | [] => (p, none)
  | decl :: rest =>
    match p.step S c decl with
    | (p, some fault) => (p, some fault)
    | (p, none) => p.run S c rest

end Progress

/-- What a pass leaves: the state of the sink, the log and the output or the fault that ended it. -/
structure PassResult (σ : Type) where
  store : σ
  log : Log
  outcome : Except PassFault PassSummary

/-- The first line of a generated file. -/
def packageLine (package : String) : String :=
  "package " ++ package ++ "\n"

/-- Fills an open unit with the selected declarations and closes it. At the first fault of the sink
the unit is left as it is then. -/
def fillUnit {σ : Type} (S : Sink σ) (c : Configuration) (selected : List Declaration)
    (unit : OutputUnit σ) (log : Log) : PassResult (OutputUnit σ) :=
  match unit.append S (packageLine c.package) with
  | (unit, .error fault) => ⟨unit, log, .error (.appending fault)⟩
  | (unit, .ok _) =>
    match Progress.run S.scoped c { store := unit, log } selected with
    | (p, some fault) => ⟨p.store, p.log, .error (.appending fault)⟩
    | (p, none) =>
      match p.store.close S with
      | (unit, .error fault) => ⟨unit, p.log, .error (.closing c.package c.fileName fault)⟩
      | (unit, .ok _) =>
        ⟨unit, p.log,
          .ok { functions := p.functions, failed := p.failed,
                deferred := selected.filter (!·.valid) }⟩

/-- Runs a pass over a corpus. Without a selected declaration the sink is not touched. -/
def runPass {σ : Type} (S : Sink σ) (c : Configuration) (corpus : List Declaration) (store : σ)
    (log : Log) : PassResult σ :=
  let selected := selection corpus c.marker
  if selected.isEmpty then ⟨store, log, .ok {}⟩
  else
    match OutputUnit.openIn S store c.package c.fileName with
    | (unit, .error fault) => ⟨unit.store, log, .error (.opening c.package c.fileName fault)⟩
    | (unit, .ok _) =>
      let filled := fillUnit S c selected unit log
      ⟨filled.store.drop S, filled.log, filled.outcome⟩

end Stubsmith
