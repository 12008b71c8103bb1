import Stubsmith.Pass
import Stubsmith.Proofs.Kotlin.Rendering
import Stubsmith.Proofs.Sink.Scope

/-!
# The runs of a pass

What a pass records about a declaration depends on the declaration alone, not on what came before or
on the sink. `Progress.step_eq` says so for one declaration and `Progress.run_cases` for a list of
them, of which a fault of the sink may cut off the end. `PassRun` lists the six ways in which a
whole pass can come to its end, and `passRun_runPass` shows that there are no others.
-/

namespace Stubsmith

variable {σ : Type}

/-- The declarations that are at fault. -/
def failing (c : Configuration) (decls : List Declaration) : List Declaration :=
  decls.filter fun decl => !(decl.faults c).isEmpty

namespace Progress

/-- The progress once declarations have been dealt with: their diagnostics are reported, the
functions without faults are listed by name, and so are the declarations with faults. -/
def record (c : Configuration) (p : Progress σ) (decls : List Declaration) : Progress σ :=
  { p with
    log := p.log.reportAll (decls.flatMap (·.diagnostics c))
    functions := p.functions ++ decls.filterMap (·.cleanName? c)
    failed := p.failed ++ (failing c decls).map (·.name) }

@[simp] theorem record_nil (c : Configuration) (p : Progress σ) : p.record c [] = p := by
  simp [record, failing, Log.reportAll]

/-- Records of declarations add up. -/
theorem record_record (c : Configuration) (p : Progress σ) (decls others : List Declaration) :
    (p.record c decls).record c others = p.record c (decls ++ others) := by
  simp [record, failing, Log.reportAll, List.append_assoc]

/-- The sink's part of the progress is apart from what is recorded. -/
theorem record_with_store (c : Configuration) (p : Progress σ) (decls : List Declaration) (s : σ) :
    ({ p with store := s } : Progress σ).record c decls = { p.record c decls with store := s } :=
  rfl

/-- A declaration with faults and without a function is recorded by its faults. -/
theorem fail_eq_record {c : Configuration} (p : Progress σ) {decl : Declaration}
    {faults : List Kotlin.RenderFault} (hfaults : decl.faults c = faults) (hne : faults ≠ []) :
    p.fail decl faults = p.record c [decl] := by
  have hnonempty : (decl.faults c).isEmpty = false := by
    rw [hfaults]
    simpa using hne
  have hname : decl.cleanName? c = none := by
    have hsome := Declaration.isSome_cleanName? c decl
    rw [hnonempty] at hsome
    simpa using hsome
  simp [fail, record, failing, Declaration.diagnostics, hfaults, hname, hne]

/-- One step appends the declaration's text if it has one, and unless that fails it records what the
declaration contributes. -/
theorem step_eq (S : Sink σ) (c : Configuration) (p : Progress σ) (decl : Declaration) :
    p.step S c decl
      = match decl.writtenText? c with
        | none => (p.record c [decl], none)
        | some text =>
          match S.append p.store text with
          | (store, .error fault) => ({ p with store }, some fault)
          | (store, .ok _) => ({ p.record c [decl] with store }, none) := by
  unfold step Declaration.writtenText?
  rcases hw : ({} : Draft).writeFunction c decl with ⟨draft, fault | function⟩
  · have hfaults : decl.faults c = [fault] := by rw [Declaration.faults, hw]
    simp only
    rw [fail_eq_record p hfaults (by simp)]
  · have hfaults : decl.faults c = function.faults := by rw [Declaration.faults, hw]
    have hname : decl.cleanName? c = if function.isClean then some function.name else none := by
      rw [Declaration.cleanName?, hw]
    simp only
    rcases S.append p.store draft.text with ⟨store, fault | u⟩
    · rfl
    -- a clean function is listed by its name, any other counts as a failed declaration
    cases hclean : function.isClean with
    | true =>
        have hnil : function.faults = [] := by
          simpa [Kotlin.WrittenFunction.isClean] using hclean
        rw [hnil] at hfaults
        simp [record, failing, Declaration.diagnostics, Log.reportAll, hfaults, hname, hclean]
    | false =>
        have hne : function.faults ≠ [] := by
          simpa [Kotlin.WrittenFunction.isClean] using hclean
        simp only [Bool.false_eq_true, if_false]
        rw [fail_eq_record _ hfaults hne, record_with_store]

/-- A step either appends the text of the declaration, if there is one, and records what it
contributes, or it ends with the fault of the sink and records nothing. -/
theorem step_cases (S : Sink σ) (c : Configuration) (p : Progress σ) (decl : Declaration) :
    (∃ store, S.Appends p.store (decl.writtenText? c).toList store ∧
      p.step S c decl = ({ p.record c [decl] with store }, none)) ∨
    (∃ text store fault, decl.writtenText? c = some text ∧
      S.append p.store text = (store, .error fault) ∧
      p.step S c decl = ({ p with store }, some fault)) := by
  have hstep := step_eq S c p decl
  cases htext : decl.writtenText? c with
  | none =>
      rw [htext] at hstep
      exact Or.inl ⟨p.store, .nil _, hstep⟩
  | some text =>
      rw [htext] at hstep
      simp only at hstep
      rcases happend : S.append p.store text with ⟨store, fault | u⟩
      · rw [happend] at hstep
        exact Or.inr ⟨text, store, fault, rfl, happend, hstep⟩
      · rw [happend] at hstep
        exact Or.inl ⟨store, .cons happend (.nil store), hstep⟩

/-- A run deals with all declarations and appends the text of each that has one, or it ends at the
first text that the sink does not take, with all declarations before it dealt with. -/
theorem run_cases (S : Sink σ) (c : Configuration) (p : Progress σ) (decls : List Declaration) :
    (∃ store, S.Appends p.store (decls.filterMap (·.writtenText? c)) store ∧
      p.run S c decls = ({ p.record c decls with store }, none)) ∨
    (∃ before decl after text s store fault, decls = before ++ decl :: after ∧
      decl.writtenText? c = some text ∧
      S.Appends p.store (before.filterMap (·.writtenText? c)) s ∧
      S.append s text = (store, .error fault) ∧
      p.run S c decls = ({ p.record c before with store }, some fault)) := by
  induction decls generalizing p with
  | nil =>
      refine Or.inl ⟨p.store, .nil _, ?_⟩
      rw [record_nil]
      rfl
  | cons first rest ih =>
      rcases step_cases S c p first with
        ⟨m, hfirst, hstep⟩ | ⟨text, store, fault, htext, hfails, hstep⟩
      · -- the rest of the run starts from what the first declaration leaves
        have htexts : ∀ decls : List Declaration,
            (first :: decls).filterMap (·.writtenText? c)
              = (first.writtenText? c).toList ++ decls.filterMap (·.writtenText? c) := by
          intro decls
          cases htext : first.writtenText? c with
          | none => rw [List.filterMap_cons_none htext]; rfl
          | some text => rw [List.filterMap_cons_some htext]; rfl
        rcases ih { p.record c [first] with store := m } with
          ⟨store, hrest, hrun⟩ |
          ⟨before, decl, after, text, s, store, fault, hsplit, htext, hbefore, hfails, hrun⟩
        · refine Or.inl ⟨store, ?_, ?_⟩
          · rw [htexts]
            exact hfirst.append hrest
          · rw [run, hstep]
            simp only
            rw [hrun, record_with_store, record_record, List.singleton_append]
        · refine Or.inr ⟨first :: before, decl, after, text, s, store, fault, ?_, htext, ?_,
            hfails, ?_⟩
          · rw [hsplit, List.cons_append]
          · rw [htexts]
            exact hfirst.append hbefore
          · rw [run, hstep]
            simp only
            rw [hrun, record_with_store, record_record, List.singleton_append]
      · -- the first declaration's text is refused, and nothing has been recorded
        refine Or.inr ⟨[], first, rest, text, p.store, store, fault, rfl, htext, .nil _, hfails, ?_⟩
        rw [run, hstep, record_nil]

end Progress

/-! ## Whole passes -/

/-- The texts that a pass over the declarations hands to the sink if nothing fails. -/
def passTexts (c : Configuration) (decls : List Declaration) : List String :=
  packageLine c.package :: decls.filterMap (·.writtenText? c)

/-- The diagnostics that a pass reports for the declarations. -/
def passDiagnostics (c : Configuration) (decls : List Declaration) : List Diagnostic :=
  decls.flatMap (·.diagnostics c)

/-- The output of a pass over the declarations. -/
def passSummary (c : Configuration) (decls : List Declaration) : PassSummary where
  functions := decls.filterMap (·.cleanName? c)
  failed := (failing c decls).map (·.name)
  deferred := decls.filter (!·.valid)

/-- The ways in which a pass can come to its end, each with the operations on the sink that led
there and what the pass leaves. -/
inductive PassRun (S : Sink σ) (c : Configuration) (corpus : List Declaration) (store : σ)
    (log : Log) : PassResult σ → Prop where
  /-- Nothing is selected, and the sink is not touched. -/
  | untouched (hselected : selection corpus c.marker = []) :
      PassRun S c corpus store log ⟨store, log, .ok {}⟩
  /-- The unit cannot be opened. -/
  | openingFails {opened : σ} {fault : SinkFault}
      (hselected : selection corpus c.marker ≠ [])
      (hopen : S.openUnit store c.package c.fileName = (opened, .error fault)) :
      PassRun S c corpus store log
        ⟨opened, log, .error (.opening c.package c.fileName fault)⟩
  /-- The package line is refused. -/
  | packageLineFails {opened appended : σ} {fault : SinkFault}
      (hselected : selection corpus c.marker ≠ [])
      (hopen : S.openUnit store c.package c.fileName = (opened, .ok ()))
      (happend : S.append opened (packageLine c.package) = (appended, .error fault)) :
      PassRun S c corpus store log ⟨S.drop appended, log, .error (.appending fault)⟩
  /-- The text of a declaration is refused. -/
  | declarationFails {opened before appended : σ} {earlier later : List Declaration}
      {decl : Declaration} {text : String} {fault : SinkFault}
      (hselected : selection corpus c.marker = earlier ++ decl :: later)
      (hopen : S.openUnit store c.package c.fileName = (opened, .ok ()))
      (hbefore : S.Appends opened (passTexts c earlier) before)
      (htext : decl.writtenText? c = some text)
      (happend : S.append before text = (appended, .error fault)) :
      PassRun S c corpus store log
        ⟨S.drop appended, log.reportAll (passDiagnostics c earlier), .error (.appending fault)⟩
  /-- The unit cannot be closed. -/
  | closingFails {opened appended closed : σ} {fault : SinkFault}
      (hselected : selection corpus c.marker ≠ [])
      (hopen : S.openUnit store c.package c.fileName = (opened, .ok ()))
      (happends : S.Appends opened (passTexts c (selection corpus c.marker)) appended)
      (hclose : S.close appended = (closed, .error fault)) :
      PassRun S c corpus store log
        ⟨closed, log.reportAll (passDiagnostics c (selection corpus c.marker)),
          .error (.closing c.package c.fileName fault)⟩
  /-- Nothing fails. -/
  | completes {opened appended closed : σ}
      (hselected : selection corpus c.marker ≠ [])
      (hopen : S.openUnit store c.package c.fileName = (opened, .ok ()))
      (happends : S.Appends opened (passTexts c (selection corpus c.marker)) appended)
      (hclose : S.close appended = (closed, .ok ())) :
      PassRun S c corpus store log
        ⟨closed, log.reportAll (passDiagnostics c (selection corpus c.marker)),
          .ok (passSummary c (selection corpus c.marker))⟩

/-- Every pass runs in one of these ways. -/
theorem passRun_runPass (S : Sink σ) (c : Configuration) (corpus : List Declaration) (store : σ)
    (log : Log) : PassRun S c corpus store log (runPass S c corpus store log) := by
  rw [runPass]
  by_cases hselected : selection corpus c.marker = []
  · rw [hselected, List.isEmpty_nil, if_pos rfl]
    exact .untouched hselected
  rw [if_neg (by simpa using hselected)]
  rcases hopen : S.openUnit store c.package c.fileName with ⟨opened, fault | u⟩
  · rw [OutputUnit.openIn_of_refused hopen]
    exact .openingFails hselected hopen
  rw [OutputUnit.openIn_of_opened hopen]
  simp only [fillUnit]
  rcases hline : S.append opened (packageLine c.package) with ⟨lined, fault | u⟩
  · rw [OutputUnit.append_of_eq hline]
    exact .packageLineFails hselected hopen hline
  rw [OutputUnit.append_of_eq hline]
  simp only
  rcases Progress.run_cases S.scoped c { store := ⟨lined, true⟩, log }
      (selection corpus c.marker) with
    ⟨unit, htaken, hrun⟩ |
    ⟨earlier, decl, later, text, taking, unit, fault, hsplit, htext, htaken, hrefused, hrun⟩
  · obtain ⟨appended, rfl, happends⟩ := htaken.of_scoped
    rw [hrun]
    simp only
    have htexts : S.Appends opened (passTexts c (selection corpus c.marker)) appended :=
      .cons hline happends
    rcases hclose : S.close appended with ⟨closed, fault | u⟩
    · rw [OutputUnit.close_of_eq hclose]
      exact .closingFails hselected hopen htexts hclose
    · rw [OutputUnit.close_of_eq hclose]
      exact .completes hselected hopen htexts hclose
  · obtain ⟨before, rfl, hbefore⟩ := htaken.of_scoped
    obtain ⟨appended, rfl, happend⟩ := OutputUnit.of_append_eq hrefused
    rw [hrun]
    exact .declarationFails hsplit hopen (.cons hline hbefore) htext happend

/-! ## Sinks with the same outcomes -/

/-- The progress with another view of the sink's state. -/
def Progress.mapStore {τ : Type} (f : τ → σ) (p : Progress τ) : Progress σ :=
  ⟨f p.store, p.log, p.functions, p.failed⟩

/-- The result of a pass with another view of the sink's state. -/
def PassResult.mapStore {τ : Type} (f : τ → σ) (r : PassResult τ) : PassResult σ :=
  ⟨f r.store, r.log, r.outcome⟩

section

variable {τ : Type} {T : Sink τ} {S : Sink σ} {f : τ → σ}

theorem Sink.Simulates.step (h : T.Simulates S f) (c : Configuration) (p : Progress τ)
    (decl : Declaration) :
    (p.mapStore f).step S c decl = Prod.map (Progress.mapStore f) id (p.step T c decl) := by
  rw [Progress.step_eq, Progress.step_eq]
  cases decl.writtenText? c with
  | none => rfl
  | some text =>
      simp only
      have happend : S.append (p.mapStore f).store text = Prod.map f id (T.append p.store text) :=
        h.append p.store text
      rw [happend]
      rcases T.append p.store text with ⟨store, fault | u⟩
      · rfl
      · rfl

theorem Sink.Simulates.run (h : T.Simulates S f) (c : Configuration) (p : Progress τ)
    (decls : List Declaration) :
    (p.mapStore f).run S c decls = Prod.map (Progress.mapStore f) id (p.run T c decls) := by
  induction decls generalizing p with
  | nil => rfl
  | cons decl rest ih =>
      rw [Progress.run, Progress.run, h.step]
      rcases p.step T c decl with ⟨q, fault | _⟩
      · exact ih q
      · rfl

/-- A unit that simulates another one is filled in the same way. -/
theorem Sink.Simulates.fillUnit (h : T.Simulates S f) (c : Configuration)
    (selected : List Declaration) (unit : OutputUnit τ) (log : Log) :
    fillUnit S c selected (unit.mapStore f) log
      = (fillUnit T c selected unit log).mapStore (OutputUnit.mapStore f) := by
  have happend := h.scoped.append unit (packageLine c.package)
  simp only [Sink.scoped] at happend
  rw [Stubsmith.fillUnit, Stubsmith.fillUnit, happend]
  rcases unit.append T (packageLine c.package) with ⟨lined, fault | u⟩
  · rfl
  have hrun := h.scoped.run c { store := lined, log } selected
  rw [Progress.mapStore] at hrun
  simp only [Prod.map, id_eq]
  rw [hrun]
  rcases Progress.run T.scoped c { store := lined, log } selected with ⟨p, fault | u⟩
  · have hclose := h.scoped.close p.store
    simp only [Sink.scoped] at hclose
    simp only [Prod.map, id_eq, Progress.mapStore, hclose]
    rcases p.store.close T with ⟨closed, fault | u⟩
    · rfl
    · rfl
  · rfl

/-- A pass over a sink that simulates another one comes to the same end, and leaves the state that
the other one is left in. -/
theorem Sink.Simulates.runPass (h : T.Simulates S f) (c : Configuration)
    (corpus : List Declaration) (t : τ) (log : Log) :
    runPass S c corpus (f t) log = (runPass T c corpus t log).mapStore f := by
  rw [Stubsmith.runPass, Stubsmith.runPass, h.openIn]
  split
  · rfl
  rcases OutputUnit.openIn T t c.package c.fileName with ⟨unit, fault | u⟩
  · rfl
  simp only [Prod.map, id_eq]
  rw [h.fillUnit]
  simp only [PassResult.mapStore, h.drop]

end

end Stubsmith
