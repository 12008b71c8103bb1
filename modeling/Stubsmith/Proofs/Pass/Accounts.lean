import Stubsmith.Proofs.Pass.Policies

/-!
# How a pass accounts for what it selects

`Declaration.report` says which diagnostics a declaration calls for, by its kind, its marker's
arguments and the types of its valid properties alone: nothing is written for it. The declarations
that call for none are the clean ones (`Declaration.IsClean`). A pass that comes to its end lists
every selected declaration once, the clean ones by their functions and the others as failed, and
reports what they call for and nothing else (`runPass_accounts`).
-/

namespace Stubsmith

open Kotlin

namespace Declaration

/-! ## What is called for -/

/-- An object whose marker gives a name and whose valid properties have only types without gaps. -/
def IsClean (c : Configuration) (decl : Declaration) : Prop :=
  decl.kind = .objectKind ∧ (decl.givenName? c).isSome = true ∧ ¬ decl.HasGap

instance (c : Configuration) (decl : Declaration) : Decidable (decl.IsClean c) :=
  inferInstanceAs (Decidable (_ ∧ _ ∧ _))

/-- An error about the declaration itself. -/
def objection (decl : Declaration) (message : String) : Diagnostic :=
  { severity := .error, phase := "validate", message, location := some decl.name }

/-- The error about a declaration that names no function: it is no object, or its marker lacks the
name argument, or that is no text. -/
def rejection? (c : Configuration) (decl : Declaration) : Option Diagnostic :=
  if decl.kind ≠ .objectKind then
    some (decl.objection ("only objects can be annotated with @" ++ c.markerSimpleName))
  else
    match (decl.annotations.find? (·.simpleName == c.markerSimpleName)).bind
        (·.get? c.nameArgument) with
    | none =>
      some (decl.objection ("@" ++ c.markerSimpleName ++ " is missing the '" ++ c.nameArgument
        ++ "' argument"))
    | some (.text _) => none
    | some value =>
      some (decl.objection ("'" ++ c.nameArgument ++ "' of @" ++ c.markerSimpleName
        ++ " must be a string, found " ++ value.kindName))

/-- An error for every gap in the types of the valid properties, in the order of the text, at the
property that it belongs to. -/
def gapReports (decl : Declaration) : List Diagnostic :=
  (decl.properties.filter (·.valid)).flatMap fun p =>
    (p.type.gaps .property).map fun position =>
      { severity := .error, phase := "render", message := "invalid " ++ position.label
        location := some (decl.name ++ "." ++ p.name) }

/-- The diagnostics that the declaration calls for. Under `discard` there is never more than one. -/
def report (c : Configuration) (decl : Declaration) : List Diagnostic :=
  match decl.rejection? c with
  | some objection => [objection]
  | none =>
    match c.onGap with
    | .discard => decl.gapReports.take 1
    | .keepPartial => decl.gapReports

/-! ## Names and gaps -/

/-- The errors for gaps are the diagnostics of the faults for gaps. -/
theorem gapReports_eq_map (decl : Declaration) :
    decl.gapReports = (gapFaults decl.name decl.parameters).map (·.toDiagnostic) := by
  rw [gapReports, gapFaults, List.map_flatMap]
  simp only [List.map_map]
  rfl

/-- There is an error for a gap exactly if there is a gap. -/
theorem gapReports_eq_nil_iff (decl : Declaration) : decl.gapReports = [] ↔ ¬ decl.HasGap := by
  rw [gapReports_eq_map, List.map_eq_nil_iff, hasGap_iff, not_not]

/-- There are as many errors for gaps as the types of the valid properties have gaps. -/
theorem length_gapReports (decl : Declaration) :
    decl.gapReports.length
      = ((decl.properties.filter (·.valid)).flatMap (·.type.gaps .property)).length := by
  simp only [gapReports, List.length_flatMap, List.length_map]

section

variable {c : Configuration} {decl : Declaration}

/-- A declaration that names no function is rejected with the diagnostic of its fault. -/
theorem rejection?_of_error {fault : RenderFault} (h : requestedName c decl = .error fault) :
    decl.rejection? c = some fault.toDiagnostic := by
  unfold requestedName checkKind at h
  unfold rejection?
  by_cases hkind : decl.kind = .objectKind
  · have hobject : decl.kind.isObject = true := by rw [hkind]; rfl
    rw [if_pos hobject] at h
    rw [if_neg (not_not_intro hkind)]
    simp only [functionName, findBySimpleName?] at h
    cases hvalue : (decl.annotations.find? (·.simpleName == c.markerSimpleName)).bind
        (·.get? c.nameArgument) with
    | none =>
        rw [hvalue] at h
        injection h with h
        subst h
        rfl
    | some value =>
        rw [hvalue] at h
        cases value with
        | text name => simp [Constant.text?] at h
        | _ =>
            injection h with h
            subst h
            rfl
  · have hobject : ¬ decl.kind.isObject = true := by
      simpa [DeclarationKind.isObject] using hkind
    rw [if_neg hobject] at h
    rw [if_pos hkind]
    injection h with h
    subst h
    rfl

/-- A declaration that names a function is not rejected. -/
theorem rejection?_of_ok {name : String} (h : requestedName c decl = .ok name) :
    decl.rejection? c = none := by
  obtain ⟨hkind, hname⟩ := (requestedName_eq_ok_iff c decl name).mp h
  rw [givenName?] at hname
  rw [rejection?, if_neg (not_not_intro hkind)]
  split at hname
  · next value hvalue => rw [hvalue]
  · simp at hname

/-- A clean declaration names a function, and its types have no gap. -/
theorem isClean_iff :
    decl.IsClean c ↔ (∃ name, requestedName c decl = .ok name) ∧ ¬ decl.HasGap := by
  simp only [requestedName_eq_ok_iff, IsClean, Option.isSome_iff_exists]
  constructor
  · rintro ⟨hkind, ⟨name, hname⟩, hgap⟩
    exact ⟨⟨name, hkind, hname⟩, hgap⟩
  · rintro ⟨⟨name, hkind, hname⟩, hgap⟩
    exact ⟨hkind, ⟨name, hname⟩, hgap⟩

/-- A declaration that names no function calls for one diagnostic. -/
theorem report_of_error {fault : RenderFault} (h : requestedName c decl = .error fault) :
    decl.report c = [fault.toDiagnostic] := by
  rw [report, rejection?_of_error h]

/-- A declaration that names a function calls for diagnostics of its gaps. -/
theorem report_of_ok {name : String} (h : requestedName c decl = .ok name) :
    decl.report c
      = match c.onGap with
        | .discard => decl.gapReports.take 1
        | .keepPartial => decl.gapReports := by
  rw [report, rejection?_of_ok h]

/-- A declaration calls for nothing exactly if it is clean. -/
theorem report_eq_nil_iff : decl.report c = [] ↔ decl.IsClean c := by
  rw [isClean_iff, ← gapReports_eq_nil_iff]
  cases hname : requestedName c decl with
  | error fault => simp [report_of_error hname]
  | ok name =>
      rw [report_of_ok hname]
      cases c.onGap with
      | discard => simp
      | keepPartial => simp

/-- A clean declaration is listed by the name that its marker gives. -/
theorem cleanName?_of_isClean (h : decl.IsClean c) : decl.cleanName? c = decl.givenName? c := by
  obtain ⟨⟨name, hname⟩, hgap⟩ := isClean_iff.mp h
  rw [hasGap_iff, ne_eq, not_not] at hgap
  rw [cleanName?_of_ok hname, if_pos hgap]
  exact ((requestedName_eq_ok_iff c decl name).mp hname).2.symm

end

/-- A pass reports what the declaration calls for. -/
theorem diagnostics_eq_report (c : Configuration) (decl : Declaration) :
    decl.diagnostics c = decl.report c := by
  rw [diagnostics]
  cases hname : requestedName c decl with
  | error fault =>
      rw [faults_of_error hname, report_of_error hname]
      rfl
  | ok name =>
      rw [faults_of_ok hname, report_of_ok hname, gapReports_eq_map]
      cases c.onGap with
      | discard => rw [List.map_take]
      | keepPartial => rfl

/-- A declaration is at fault exactly if it is not clean. -/
theorem faults_eq_nil_iff (c : Configuration) (decl : Declaration) :
    decl.faults c = [] ↔ decl.IsClean c := by
  rw [← report_eq_nil_iff, ← diagnostics_eq_report, diagnostics, List.map_eq_nil_iff]

/-- A declaration that is not clean is not listed by a function. -/
theorem cleanName?_eq_none_iff (c : Configuration) (decl : Declaration) :
    decl.cleanName? c = none ↔ ¬ decl.IsClean c := by
  rw [← faults_eq_nil_iff, ← List.isEmpty_iff, ← isSome_cleanName?]
  simp

/-- A rejection is an error about the declaration itself. -/
theorem exists_objection_of_rejection? {c : Configuration} {decl : Declaration} {d : Diagnostic}
    (h : decl.rejection? c = some d) : ∃ message, d = decl.objection message := by
  unfold rejection? at h
  split at h
  · injection h with h
    exact ⟨_, h.symm⟩
  · split at h
    · injection h with h
      exact ⟨_, h.symm⟩
    · cases h
    · injection h with h
      exact ⟨_, h.symm⟩

/-- An error for a gap stands at a parameter. -/
theorem exists_parameter_of_mem_gapReports {decl : Declaration} {d : Diagnostic}
    (hd : d ∈ decl.gapReports) : d.severity = .error ∧
      ∃ p ∈ decl.parameters, d.location = some (decl.name ++ "." ++ p.name) := by
  obtain ⟨p, hp, hposition⟩ := List.mem_flatMap.mp hd
  obtain ⟨position, _, rfl⟩ := List.mem_map.mp hposition
  exact ⟨rfl, p, hp, rfl⟩

/-- Every diagnostic that a declaration calls for is an error, at the declaration or at one of its
parameters. -/
theorem severity_location_of_mem_report {c : Configuration} {decl : Declaration} {d : Diagnostic}
    (hd : d ∈ decl.report c) :
    d.severity = .error ∧ (d.location = some decl.name ∨
      ∃ p ∈ decl.parameters, d.location = some (decl.name ++ "." ++ p.name)) := by
  have hgap : d ∈ decl.gapReports → d.severity = .error ∧ (d.location = some decl.name ∨
      ∃ p ∈ decl.parameters, d.location = some (decl.name ++ "." ++ p.name)) := by
    intro hmem
    obtain ⟨hseverity, hlocation⟩ := exists_parameter_of_mem_gapReports hmem
    exact ⟨hseverity, Or.inr hlocation⟩
  rw [report] at hd
  split at hd
  · next objection hobjection =>
      obtain ⟨message, rfl⟩ := exists_objection_of_rejection? hobjection
      rw [List.mem_singleton.mp hd]
      exact ⟨rfl, Or.inl rfl⟩
  · split at hd
    · exact hgap (List.mem_of_mem_take hd)
    · exact hgap hd

/-- Under `discard`, and for a declaration that names no function, one diagnostic is called for if
the declaration is not clean. -/
theorem length_report_eq_one {c : Configuration} {decl : Declaration} (hclean : ¬ decl.IsClean c)
    (h : (decl.rejection? c).isSome = true ∨ c.onGap = .discard) : (decl.report c).length = 1 := by
  have hpos : 0 < (decl.report c).length := by
    rw [List.length_pos_iff, ne_eq, report_eq_nil_iff]
    exact hclean
  have hle : (decl.report c).length ≤ 1 := by
    rw [report]
    cases hrejection : decl.rejection? c with
    | some objection => simp
    | none =>
        have hpolicy : c.onGap = .discard := by simpa [hrejection] using h
        rw [hpolicy]
        exact List.length_take_le 1 decl.gapReports
  omega

/-- Under `keepPartial` a declaration that names a function calls for one diagnostic for each gap in
the types of its valid properties. -/
theorem length_report_keepPartial {c : Configuration} {decl : Declaration}
    (hname : decl.rejection? c = none) (hpolicy : c.onGap = .keepPartial) :
    (decl.report c).length
      = ((decl.properties.filter (·.valid)).flatMap (·.type.gaps .property)).length := by
  rw [report, hname, hpolicy]
  exact decl.length_gapReports

end Declaration

/-! ## Whole passes -/

/-- The accounts of a pass over the selected declarations: its output, and the diagnostics that it
reported. -/
structure IsAccountOf (c : Configuration) (selected : List Declaration) (summary : PassSummary)
    (reported : List Diagnostic) : Prop where
  /-- The functions listed are those of the clean declarations, in order. -/
  functions : summary.functions.map some
    = (selected.filter (·.IsClean c)).map (·.givenName? c)
  /-- The other declarations are listed as failed, in order. -/
  failed : summary.failed = (selected.filter (¬ ·.IsClean c)).map (·.name)
  /-- Together these are as many as were selected. -/
  total : summary.functions.length + summary.failed.length = selected.length
  /-- So nothing is listed exactly if nothing was selected. -/
  isEmpty_iff : summary.isEmpty = true ↔ selected = []
  /-- Deferred is what is marked invalid, clean or not. -/
  deferred : summary.deferred = selected.filter (¬ ·.valid)
  /-- One group of diagnostics is reported for every failed declaration, in order. -/
  reported : reported = (selected.filter (¬ ·.IsClean c)).flatMap (·.report c)
  /-- A group has one diagnostic if the declaration names no function or the policy is `discard`. -/
  single : ∀ decl ∈ selected, ¬ decl.IsClean c →
    (decl.rejection? c).isSome = true ∨ c.onGap = .discard → (decl.report c).length = 1
  /-- Any other group has one for every gap in the types of the declaration's valid properties. -/
  counted : ∀ decl ∈ selected, decl.rejection? c = none → c.onGap = .keepPartial →
    decl.report c = decl.gapReports ∧ (decl.report c).length
      = ((decl.properties.filter (·.valid)).flatMap (·.type.gaps .property)).length
  /-- Every diagnostic of a group is an error at the declaration or at one of its parameters. -/
  located : ∀ decl ∈ selected, ∀ d ∈ decl.report c, d.severity = .error ∧
    (d.location = some decl.name ∨
      ∃ p ∈ decl.parameters, d.location = some (decl.name ++ "." ++ p.name))

section

variable (c : Configuration) (decls : List Declaration)

/-- The declarations at fault are those that are not clean. -/
theorem failing_eq_filter : failing c decls = decls.filter (¬ ·.IsClean c) := by
  apply List.filter_congr
  intro decl _
  rw [Bool.eq_iff_iff, decide_eq_true_iff, ← Declaration.faults_eq_nil_iff]
  simp

/-- The functions listed are those of the clean declarations. -/
theorem map_some_cleanName? :
    (decls.filterMap (·.cleanName? c)).map some
      = (decls.filter (·.IsClean c)).map (·.givenName? c) := by
  induction decls with
  | nil => rfl
  | cons decl rest ih =>
      by_cases hclean : decl.IsClean c
      · obtain ⟨name, hname⟩ := Option.isSome_iff_exists.mp hclean.2.1
        have hlisted := Declaration.cleanName?_of_isClean hclean
        rw [hname] at hlisted
        rw [List.filterMap_cons_some hlisted, List.filter_cons, if_pos (decide_eq_true hclean),
          List.map_cons, List.map_cons, ih, hname]
      · have hlisted := (Declaration.cleanName?_eq_none_iff c decl).mpr hclean
        rw [List.filterMap_cons_none hlisted, List.filter_cons,
          if_neg (by rwa [decide_eq_true_iff]), ih]

/-- What is listed is as much as was selected. -/
theorem length_functions_add_length_failed :
    (passSummary c decls).functions.length + (passSummary c decls).failed.length
      = decls.length := by
  have hfunctions := congrArg List.length (map_some_cleanName? c decls)
  rw [List.length_map, List.length_map] at hfunctions
  have hfailed : (passSummary c decls).failed.length
      = (decls.filter (¬ ·.IsClean c)).length := by
    rw [← failing_eq_filter, passSummary, List.length_map]
  have hsplit := List.length_eq_length_filter_add (l := decls) (·.IsClean c)
  rw [hfailed, passSummary, hfunctions, hsplit]
  simp

/-- Only declarations that are not clean have something reported. -/
theorem passDiagnostics_eq_flatMap_report :
    passDiagnostics c decls = (decls.filter (¬ ·.IsClean c)).flatMap (·.report c) := by
  rw [passDiagnostics_eq_failing, failing_eq_filter]
  simp only [Declaration.diagnostics_eq_report]

/-- The output and the diagnostics of a pass are its accounts. -/
theorem isAccountOf_passSummary :
    IsAccountOf c decls (passSummary c decls) (passDiagnostics c decls) where
  functions := map_some_cleanName? c decls
  failed := by rw [← failing_eq_filter]; rfl
  total := length_functions_add_length_failed c decls
  isEmpty_iff := by
    have htotal := length_functions_add_length_failed c decls
    rw [PassSummary.isEmpty, Bool.and_eq_true, List.isEmpty_iff_length_eq_zero,
      List.isEmpty_iff_length_eq_zero, ← List.length_eq_zero_iff, ← htotal]
    omega
  deferred := by simp [passSummary]
  reported := passDiagnostics_eq_flatMap_report c decls
  single := fun _ _ hclean h => Declaration.length_report_eq_one hclean h
  counted := fun decl _ hname hpolicy =>
    ⟨by rw [Declaration.report, hname, hpolicy],
      Declaration.length_report_keepPartial hname hpolicy⟩
  located := fun _ _ _ hd => Declaration.severity_location_of_mem_report hd

end

/-- **The accounts of a pass.** Whatever the sink, a pass that comes to its end accounts for every
selected declaration exactly once, and reports exactly what the failed ones call for. -/
theorem runPass_accounts {σ : Type} (S : Sink σ) (c : Configuration) (corpus : List Declaration)
    (s : σ) (log : Log) {summary : PassSummary}
    (hok : (runPass S c corpus s log).outcome = .ok summary) :
    ∃ reported, (runPass S c corpus s log).log = log.reportAll reported ∧
      IsAccountOf c (selection corpus c.marker) summary reported := by
  have hrun := passRun_runPass S c corpus s log
  have hsummary := (hrun.outcome_of_ok hok).symm.trans hok
  injection hsummary with hsummary
  refine ⟨passDiagnostics c (selection corpus c.marker), hrun.log_of_ok hok, ?_⟩
  rw [← hsummary]
  exact isAccountOf_passSummary c (selection corpus c.marker)

/-- To `corpusWithGaps` are added a clean object that is marked invalid, and two objects whose
markers give no name. -/
def mixedCorpus : List Declaration :=
  let marker : Annotation := { name := "org.example.Function" }
  corpusWithGaps ++
    [ { name := "org.example.D", kind := .objectKind, valid := false
        annotations := [marker.withArgument "erstesArgument" (.text "servus")]
        properties := [.bare "a" (.named "Int"), { name := "b", type := .unresolved, valid := false }]
      },
      { name := "org.example.E", kind := .objectKind, annotations := [marker] },
      { name := "org.example.F", kind := .objectKind
        annotations := [marker.withArgument "erstesArgument" (.integer 3)] } ]

/-- The accounts of a pass over `mixedCorpus` in memory: one function, four failed declarations, and
five errors, since the first declaration has two gaps. -/
theorem memory_accounts :
    ∃ summary reported,
      (runPass MemoryStore.sink keepingPartial mixedCorpus {} {}).outcome = .ok summary ∧
      (runPass MemoryStore.sink keepingPartial mixedCorpus {} {}).log.diagnostics = reported ∧
      summary.functions = ["servus"] ∧
      summary.failed = ["org.example.A", "org.example.B", "org.example.E", "org.example.F"] ∧
      summary.deferred.map (·.name) = ["org.example.D"] ∧
      reported.map (·.message)
        = ["invalid type argument", "invalid property type",
            "only objects can be annotated with @Function",
            "@Function is missing the 'erstesArgument' argument",
            "'erstesArgument' of @Function must be a string, found integer"] := by
  have hok := MemoryStore.sink_neverFails.outcome_runPass keepingPartial mixedCorpus {} {}
  obtain ⟨reported, hlog, haccount⟩ :=
    runPass_accounts MemoryStore.sink keepingPartial mixedCorpus {} {} hok
  refine ⟨_, reported, hok, by rw [hlog]; rfl, by decide, ?_, ?_, ?_⟩
  · rw [haccount.failed]
    decide
  · rw [haccount.deferred]
    decide
  · rw [haccount.reported]
    decide

end Stubsmith
