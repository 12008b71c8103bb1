import Mathlib.Data.List.Forall2
import Mathlib.Logic.Relation
import Stubsmith.Proofs.Kotlin.Marker
import Stubsmith.Proofs.Pass.Joined
import Stubsmith.Proofs.Pass.Policies

/-!
# What a pass does not look at

Of a declaration a pass reads its name, whether it is an object, its valid properties, its mark, and
of the annotations with the marker's simple name the qualified names and the name arguments
(`Declaration.Essence`). All else can be changed without any effect (`runPass_indifferent`): single
changes of that sort are listed in `Declaration.IdleStep`.
-/

namespace Stubsmith

open Kotlin

namespace Declaration

/-! ## Idle changes -/

/-- A single change to a declaration that is of no consequence, with what is changed somewhere among
other things of its sort. -/
inductive IdleStep (c : Configuration) (decl : Declaration) : Declaration → Prop
  /-- A property that is marked invalid is put in. -/
  | property {before after : List Property} {p : Property}
      (hsplit : decl.properties = before ++ after) (hvalid : p.valid = false) :
      IdleStep c decl { decl with properties := before ++ p :: after }
  /-- An annotation of another simple name than the marker's is put in. -/
  | annotation {before after : List Annotation} {a : Annotation}
      (hsplit : decl.annotations = before ++ after) (hname : a.simpleName ≠ c.markerSimpleName) :
      IdleStep c decl { decl with annotations := before ++ a :: after }
  /-- An argument that is not the name argument is put into an annotation. -/
  | argument {before after : List Annotation} {a : Annotation} {arguments : OrderedMap Constant}
      {earlier later : List (String × Constant)} {key : String} {value : Constant}
      (hsplit : decl.annotations = before ++ a :: after)
      (hentries : a.arguments.entries = earlier ++ later)
      (hentries' : arguments.entries = earlier ++ (key, value) :: later)
      (hkey : key ≠ c.nameArgument) :
      IdleStep c decl { decl with annotations := before ++ { a with arguments } :: after }
  /-- The arguments of an annotation are put into another order. -/
  | order {before after : List Annotation} {a : Annotation} {arguments : OrderedMap Constant}
      (hsplit : decl.annotations = before ++ a :: after)
      (hperm : a.arguments.entries.Perm arguments.entries) :
      IdleStep c decl { decl with annotations := before ++ { a with arguments } :: after }
  /-- One kind gives way to another one, and neither is that of objects. -/
  | kind {kind : DeclarationKind} (hkind : decl.kind ≠ .objectKind) (hkind' : kind ≠ .objectKind) :
      IdleStep c decl { decl with kind }

/-- The declarations differ by idle changes only, made in either direction. -/
def DiffersIdly (c : Configuration) : Declaration → Declaration → Prop :=
  Relation.EqvGen (IdleStep c)

/-! ## What is looked at -/

/-- The parts of a declaration that a pass looks at. -/
structure Essence where
  name : String
  isObject : Bool
  /-- The annotations with the marker's simple name: their qualified names and name arguments. -/
  marks : List (String × Option Constant)
  parameters : List Property
  valid : Bool

/-- What a pass looks at in the declaration. -/
def essence (c : Configuration) (decl : Declaration) : Essence where
  name := decl.name
  isObject := decl.kind.isObject
  marks := (decl.annotations.filter (·.simpleName == c.markerSimpleName)).map
    fun a => (a.name, a.get? c.nameArgument)
  parameters := decl.parameters
  valid := decl.valid

section

variable {c : Configuration} {decl : Declaration}

/-- Other arguments of an annotation do not show if the name argument stays the same. -/
theorem essence_with_arguments {before after : List Annotation} {a : Annotation}
    {arguments : OrderedMap Constant} (hsplit : decl.annotations = before ++ a :: after)
    (hsame : arguments.get? c.nameArgument = a.arguments.get? c.nameArgument) :
    essence c { decl with annotations := before ++ { a with arguments } :: after }
      = decl.essence c := by
  have hsimple : ({ a with arguments } : Annotation).simpleName = a.simpleName := rfl
  have hget : ({ a with arguments } : Annotation).get? c.nameArgument = a.get? c.nameArgument :=
    hsame
  simp only [essence, hsplit, List.filter_append, List.map_append, List.filter_cons, hsimple,
    parameters]
  split
  · rw [List.map_cons, List.map_cons, hget]
  · rfl

/-- An idle change does not show. -/
theorem IdleStep.essence_eq {decl' : Declaration} (h : IdleStep c decl decl') :
    decl'.essence c = decl.essence c := by
  cases h with
  | property hsplit hvalid =>
      simp [essence, parameters, hsplit, hvalid]
  | annotation hsplit hname =>
      simp [essence, parameters, hsplit, hname]
  | argument hsplit hentries hentries' hkey =>
      apply essence_with_arguments hsplit
      apply OrderedMap.get?_congr
      intro value
      simp [hentries, hentries', Ne.symm hkey]
  | order hsplit hperm =>
      apply essence_with_arguments hsplit
      apply OrderedMap.get?_congr
      intro value
      exact hperm.symm.mem_iff
  | kind hkind hkind' =>
      simp [essence, parameters, DeclarationKind.isObject, hkind, hkind']

/-- Declarations that differ idly are looked at alike. -/
theorem DiffersIdly.essence_eq {decl' : Declaration} (h : DiffersIdly c decl decl') :
    decl.essence c = decl'.essence c := by
  induction h with
  | rel _ _ hstep => exact hstep.essence_eq.symm
  | refl _ => rfl
  | symm _ _ _ ih => exact ih.symm
  | trans _ _ _ _ _ ih ih' => exact ih.trans ih'

/-- The marker itself is among the annotations of its simple name. -/
theorem isAnnotatedWith_eq_any_marks :
    decl.isAnnotatedWith c.marker = (decl.essence c).marks.any (·.1 == c.marker) := by
  rw [essence, List.any_map, List.any_filter, isAnnotatedWith]
  congr 1
  funext a
  by_cases ha : a.name = c.marker
  · simp [ha, simpleName_of_name_eq ha]
  · simp [ha]

/-- The name argument is that of the first mark. -/
theorem get?_findBySimpleName? :
    (decl.findBySimpleName? c.markerSimpleName).bind (·.get? c.nameArgument)
      = (decl.essence c).marks.head?.bind Prod.snd := by
  rw [essence, List.head?_map, List.head?_filter, findBySimpleName?]
  cases decl.annotations.find? (·.simpleName == c.markerSimpleName) with
  | none => rfl
  | some a => rfl

end

end Declaration

section

variable {c : Configuration} {decl decl' : Declaration}

/-! ## One declaration -/

/-- Markers that are looked at alike give the same name, or give none for the same reason. -/
theorem Kotlin.functionName_congr (h : decl.essence c = decl'.essence c) :
    functionName c decl = functionName c decl' := by
  have hname : decl.name = decl'.name := congrArg Declaration.Essence.name h
  simp only [functionName, Declaration.get?_findBySimpleName?, hname, h]

/-- Declarations that are looked at alike ask for the same function, or neither is an object. -/
theorem Kotlin.requestedName_congr (h : decl.essence c = decl'.essence c) :
    requestedName c decl = requestedName c decl' ∨
    ∃ fault fault', requestedName c decl = .error fault ∧ requestedName c decl' = .error fault' ∧
      fault.toDiagnostic = fault'.toDiagnostic := by
  have hname : decl.name = decl'.name := congrArg Declaration.Essence.name h
  have hobject : decl.kind.isObject = decl'.kind.isObject :=
    congrArg Declaration.Essence.isObject h
  by_cases hkind : decl'.kind.isObject = true
  · left
    rw [hkind] at hobject
    rw [requestedName, requestedName, checkKind, checkKind, if_pos hobject, if_pos hkind,
      functionName_congr h]
  · right
    rw [← hobject] at hkind
    refine ⟨.wrongKind decl.name decl.kind c.markerSimpleName,
      .wrongKind decl'.name decl'.kind c.markerSimpleName, ?_, ?_, ?_⟩
    · rw [requestedName, checkKind, if_neg hkind]
    · rw [hobject] at hkind
      rw [requestedName, checkKind, if_neg hkind]
    · -- the diagnostic names the declaration and not its kind
      rw [hname]
      rfl

/-- Declarations that are looked at alike are written alike. Their faults may differ in what is not
reported. -/
theorem Draft.writeFunction_congr (h : decl.essence c = decl'.essence c) (d : Draft) :
    d.writeFunction c decl = d.writeFunction c decl' ∨
    ∃ fault fault', d.writeFunction c decl = (d, .error fault) ∧
      d.writeFunction c decl' = (d, .error fault') ∧
      fault.toDiagnostic = fault'.toDiagnostic := by
  rcases requestedName_congr h with hsame | ⟨fault, fault', hfault, hfault', hdiagnostic⟩
  · left
    cases hname : requestedName c decl with
    | error fault =>
        rw [writeFunction_of_error d hname, writeFunction_of_error d (hsame.symm.trans hname)]
    | ok name =>
        have howner : decl.name = decl'.name := congrArg Declaration.Essence.name h
        have hparameters : decl.parameters = decl'.parameters :=
          congrArg Declaration.Essence.parameters h
        rw [writeFunction_of_ok d hname, writeFunction_of_ok d (hsame.symm.trans hname), howner,
          hparameters]
  · exact Or.inr ⟨fault, fault', writeFunction_of_error d hfault, writeFunction_of_error d hfault',
      hdiagnostic⟩

namespace Declaration

theorem writtenText?_congr (h : decl.essence c = decl'.essence c) :
    decl.writtenText? c = decl'.writtenText? c := by
  unfold writtenText?
  rcases Draft.writeFunction_congr h {} with hsame | ⟨fault, fault', hw, hw', _⟩
  · rw [hsame]
  · rw [hw, hw']

theorem cleanName?_congr (h : decl.essence c = decl'.essence c) :
    decl.cleanName? c = decl'.cleanName? c := by
  unfold cleanName?
  rcases Draft.writeFunction_congr h {} with hsame | ⟨fault, fault', hw, hw', _⟩
  · rw [hsame]
  · rw [hw, hw']

theorem diagnostics_congr (h : decl.essence c = decl'.essence c) :
    decl.diagnostics c = decl'.diagnostics c := by
  unfold diagnostics faults
  rcases Draft.writeFunction_congr h {} with hsame | ⟨fault, fault', hw, hw', hdiagnostic⟩
  · rw [hsame]
  · rw [hw, hw', List.map_singleton, List.map_singleton, hdiagnostic]

end Declaration

/-! ## Whole passes -/

namespace Progress

variable {σ : Type}

/-- Declarations that are looked at alike are recorded alike. -/
theorem record_congr (h : decl.essence c = decl'.essence c) (p : Progress σ) :
    p.record c [decl] = p.record c [decl'] := by
  have hname : decl.name = decl'.name := congrArg Declaration.Essence.name h
  have hclean := Declaration.cleanName?_congr h
  have hfaults : (decl.faults c).isEmpty = (decl'.faults c).isEmpty := by
    rw [← Declaration.isSome_cleanName?, ← Declaration.isSome_cleanName?, hclean]
  have hfailing : (failing c [decl]).map (·.name) = (failing c [decl']).map (·.name) := by
    rw [failing, failing, List.filter_singleton, List.filter_singleton, hfaults]
    cases (decl'.faults c).isEmpty with
    | true => rfl
    | false => exact congrArg (fun name => [name]) hname
  simp only [record, hfailing, List.flatMap_singleton, List.filterMap_cons, List.filterMap_nil,
    Declaration.diagnostics_congr h, hclean]

/-- A step does the same with declarations that are looked at alike. -/
theorem step_congr (h : decl.essence c = decl'.essence c) (S : Sink σ) (p : Progress σ) :
    p.step S c decl = p.step S c decl' := by
  rw [step_eq, step_eq, Declaration.writtenText?_congr h, record_congr h]

/-- A run does the same with declarations that are looked at alike, one by one. -/
theorem run_congr {xs ys : List Declaration}
    (h : xs.map (·.essence c) = ys.map (·.essence c)) (S : Sink σ) (p : Progress σ) :
    p.run S c xs = p.run S c ys := by
  induction xs generalizing ys p with
  | nil =>
      rw [List.map_nil, eq_comm, List.map_eq_nil_iff] at h
      rw [h]
  | cons x xs ih =>
      cases ys with
      | nil => simp at h
      | cons y ys =>
          rw [List.map_cons, List.map_cons, List.cons.injEq] at h
          rw [run, run, step_congr h.1]
          split
          · rfl
          · exact ih h.2 _

end Progress

end

/-- The selection can be told from what is looked at. -/
theorem map_essence_selection (c : Configuration) (corpus : List Declaration) :
    (selection corpus c.marker).map (·.essence c)
      = (corpus.map (·.essence c)).filter fun e => e.marks.any (·.1 == c.marker) := by
  rw [selection, List.filter_map]
  congr 2
  funext decl
  exact Declaration.isAnnotatedWith_eq_any_marks

/-- The names in the output of a pass. -/
structure PassNames where
  functions : List String
  failed : List String
  deferred : List String

/-- The names of all that is listed in the output. -/
def PassSummary.names (p : PassSummary) : PassNames :=
  ⟨p.functions, p.failed, p.deferred.map (·.name)⟩

/-- The deferred declarations have names that can be told from what is looked at. -/
theorem map_name_deferred (c : Configuration) (decls : List Declaration) :
    (decls.filter (!·.valid)).map (·.name)
      = ((decls.map (·.essence c)).filter (!·.valid)).map (·.name) := by
  rw [List.filter_map, List.map_map]
  rfl

/-- A unit is filled alike with declarations that are run alike and defer the same names. -/
theorem fillUnit_congr_of_run {σ : Type} (S : Sink σ) {c : Configuration}
    {xs ys : List Declaration}
    (hrun : ∀ p : Progress (OutputUnit σ), p.run S.scoped c xs = p.run S.scoped c ys)
    (hdeferred : (xs.filter (!·.valid)).map (·.name) = (ys.filter (!·.valid)).map (·.name))
    (unit : OutputUnit σ) (log : Log) :
    (fillUnit S c xs unit log).store = (fillUnit S c ys unit log).store ∧
      (fillUnit S c xs unit log).log = (fillUnit S c ys unit log).log ∧
      (fillUnit S c xs unit log).outcome.map (·.names)
        = (fillUnit S c ys unit log).outcome.map (·.names) := by
  rw [fillUnit, fillUnit]
  rcases unit.append S (packageLine c.package) with ⟨lined, fault | u⟩
  · exact ⟨rfl, rfl, rfl⟩
  simp only
  rw [hrun]
  rcases Progress.run S.scoped c { store := lined, log } ys with ⟨p, fault | _⟩
  · simp only
    rcases p.store.close S with ⟨closed, fault | u⟩
    · exact ⟨rfl, rfl, rfl⟩
    · refine ⟨rfl, rfl, ?_⟩
      simp only [Except.map, PassSummary.names, hdeferred]
  · exact ⟨rfl, rfl, rfl⟩

/-- Passes come to the same end if their selections are run alike and defer the same names. -/
theorem runPass_congr_of_run {σ : Type} (S : Sink σ) {c : Configuration} {xs ys : List Declaration}
    (hempty : (selection xs c.marker).isEmpty = (selection ys c.marker).isEmpty)
    (hrun : ∀ p : Progress (OutputUnit σ),
      p.run S.scoped c (selection xs c.marker) = p.run S.scoped c (selection ys c.marker))
    (hdeferred : ((selection xs c.marker).filter (!·.valid)).map (·.name)
      = ((selection ys c.marker).filter (!·.valid)).map (·.name))
    (store : σ) (log : Log) :
    (runPass S c xs store log).store = (runPass S c ys store log).store ∧
      (runPass S c xs store log).log = (runPass S c ys store log).log ∧
      (runPass S c xs store log).outcome.map (·.names)
        = (runPass S c ys store log).outcome.map (·.names) := by
  rw [runPass, runPass, hempty]
  split
  · exact ⟨rfl, rfl, rfl⟩
  rcases OutputUnit.openIn S store c.package c.fileName with ⟨unit, fault | u⟩
  · exact ⟨rfl, rfl, rfl⟩
  obtain ⟨hunit, hlog, hnames⟩ := fillUnit_congr_of_run S hrun hdeferred unit log
  exact ⟨congrArg (OutputUnit.drop S) hunit, hlog, hnames⟩

/-- Passes over corpora that are looked at alike come to the same end. -/
theorem runPass_congr {σ : Type} (S : Sink σ) {c : Configuration} {xs ys : List Declaration}
    (h : xs.map (·.essence c) = ys.map (·.essence c)) (store : σ) (log : Log) :
    (runPass S c xs store log).store = (runPass S c ys store log).store ∧
      (runPass S c xs store log).log = (runPass S c ys store log).log ∧
      (runPass S c xs store log).outcome.map (·.names)
        = (runPass S c ys store log).outcome.map (·.names) := by
  have hselected : (selection xs c.marker).map (·.essence c)
      = (selection ys c.marker).map (·.essence c) := by
    rw [map_essence_selection, map_essence_selection, h]
  have hempty : (selection xs c.marker).isEmpty = (selection ys c.marker).isEmpty := by
    rw [← List.isEmpty_map, hselected, List.isEmpty_map]
  have hdeferred := map_name_deferred c (selection xs c.marker)
  rw [hselected, ← map_name_deferred] at hdeferred
  exact runPass_congr_of_run S hempty (Progress.run_congr hselected S.scoped) hdeferred store log

/-- **Idle changes have no effect.** For corpora that differ by idle changes, declaration by
declaration, and under either policy, a pass leaves the sink in the same state after the same
operations, reports the same diagnostics, and lists the same names or ends with the same fault,
whatever the sink does. -/
theorem runPass_indifferent {σ : Type} (S : Sink σ) {c : Configuration} {xs ys : List Declaration}
    (h : List.Forall₂ (Declaration.DiffersIdly c) xs ys) (policy : GapPolicy) (store : σ)
    (log : Log) :
    let pass := runPass S (c.under policy) xs store log
    let pass' := runPass S (c.under policy) ys store log
    pass.store = pass'.store ∧ pass.log = pass'.log ∧
      pass.outcome.map (·.names) = pass'.outcome.map (·.names) ∧
      (runPass S.traced (c.under policy) xs (store, []) log).store.2
        = (runPass S.traced (c.under policy) ys (store, []) log).store.2 := by
  have hessence : xs.map (·.essence c) = ys.map (·.essence c) := by
    induction h with
    | nil => rfl
    | cons hfirst _ ih => rw [List.map_cons, List.map_cons, hfirst.essence_eq, ih]
  -- the policy is not looked at, so it can be any
  have hunder : xs.map (·.essence (c.under policy)) = ys.map (·.essence (c.under policy)) :=
    hessence
  obtain ⟨hstore, hlog, hnames⟩ := runPass_congr S hunder store log
  obtain ⟨htraced, _, _⟩ := runPass_congr S.traced hunder (store, []) log
  exact ⟨hstore, hlog, hnames, congrArg Prod.snd htraced⟩

/-- `plainObject` with an invalid property, with another annotation, and with one more argument
before the name argument of its marker. -/
def busyObject : Declaration where
  name := "org.example.D"
  kind := .objectKind
  annotations :=
    [.bare "kotlin.Deprecated",
      { name := "org.example.Function"
        arguments := ⟨[("reason", .integer 3), ("erstesArgument", .text "servus")], by decide⟩ }]
  properties := [{ name := "later", type := .unresolved, valid := false }]

/-- A marked declaration of that kind, which names no function. -/
def strayDeclaration (kind : DeclarationKind) : Declaration where
  name := "org.example.Stray"
  kind := kind
  annotations := [.bare "org.example.Function"]

/-- The additions of `busyObject` to `plainObject` are idle. -/
theorem busyObject_differsIdly : Declaration.DiffersIdly {} plainObject busyObject := by
  -- the argument is put behind the name argument first, and then the two change places
  let swapped : OrderedMap Constant :=
    ⟨[("erstesArgument", .text "servus"), ("reason", .integer 3)], by decide⟩
  let marker : Annotation := { name := "org.example.Function", arguments := swapped }
  let withReason : Declaration := { plainObject with annotations := [marker] }
  let ordered : Declaration := { busyObject with
    annotations := busyObject.annotations.drop 1, properties := [] }
  let annotated : Declaration := { busyObject with properties := [] }
  have hargument : Declaration.IdleStep {} plainObject withReason :=
    @Declaration.IdleStep.argument {} plainObject [] [] _ swapped
      [("erstesArgument", .text "servus")] [] "reason" (.integer 3) rfl rfl rfl (by decide)
  have horder : Declaration.IdleStep {} withReason ordered :=
    @Declaration.IdleStep.order {} withReason [] [] marker _ rfl (.swap _ _ _)
  have hannotation : Declaration.IdleStep {} ordered annotated :=
    @Declaration.IdleStep.annotation {} ordered [] _ (.bare "kotlin.Deprecated") rfl (by decide)
  have hproperty : Declaration.IdleStep {} annotated busyObject :=
    @Declaration.IdleStep.property {} annotated [] []
      { name := "later", type := .unresolved, valid := false } rfl rfl
  exact .trans _ _ _ (.rel _ _ hargument)
    (.trans _ _ _ (.rel _ _ horder) (.trans _ _ _ (.rel _ _ hannotation) (.rel _ _ hproperty)))

/-- In memory, `busyObject` leaves the file of `plainObject`, and an interface has the diagnostic of
a class. -/
theorem memory_busyObject_indifferent :
    let corpus := [plainObject, strayDeclaration .classKind]
    let other := [busyObject, strayDeclaration .interfaceKind]
    List.Forall₂ (Declaration.DiffersIdly {}) corpus other ∧
      writtenFiles MemoryStore.sink {} other {} {}
        = [{ package := "org.example", fileName := "GeneratedFunctions", closed := true
             content := "package org.example\nfun servus() \x7b\n"
               ++ "    println(\"Hallo aus Funktion -> servus\")\n\x7d\n" }] ∧
      (runPass MemoryStore.sink {} other {} {}).log.diagnostics.map (·.message)
        = ["only objects can be annotated with @Function"] := by
  intro corpus other
  have hstray : Declaration.DiffersIdly {} (strayDeclaration .classKind)
      (strayDeclaration .interfaceKind) := .rel _ _ (.kind (by decide) (by decide))
  have hdiffers : List.Forall₂ (Declaration.DiffersIdly {}) corpus other :=
    .cons busyObject_differsIdly (.cons hstray .nil)
  obtain ⟨_, hlog, _, htrace⟩ :=
    runPass_indifferent MemoryStore.sink hdiffers .discard {} {}
  have hS := MemoryStore.sink_neverFails
  refine ⟨hdiffers, ?_, ?_⟩
  · have hfiles := congrArg filesOf htrace.symm
    refine hfiles.trans ?_
    show writtenFiles MemoryStore.sink {} corpus {} {} = _
    rw [hS.writtenFiles_eq]
    decide
  · refine (congrArg (fun log : Log => log.diagnostics.map (·.message)) hlog.symm).trans ?_
    show (runPass MemoryStore.sink {} corpus {} {}).log.diagnostics.map (·.message) = _
    rw [hS.log_runPass]
    decide

end Stubsmith
