import Stubsmith.Proofs.Kotlin.Function

/-!
# What one declaration contributes

A pass writes every declaration on a fresh draft. What comes of it is the text that goes to the
sink, the faults that are reported and the name that is listed if there are none. The three are
described here for each of the four cases: the declaration names no function, its types have no gap,
they have one and the policy is `keepPartial`, or they have one and the policy is `discard`.
-/

namespace Stubsmith

open Kotlin

namespace Declaration

/-- The text that goes to the sink for the declaration, if its function is written at all. -/
def writtenText? (c : Configuration) (decl : Declaration) : Option String :=
  match ({} : Draft).writeFunction c decl with
  | (d, .ok _) => some d.text
  | (_, .error _) => none

/-- The name and the parameters of the declaration's function, if it is written at all. -/
def writtenFunction? (c : Configuration) (decl : Declaration) : Option (String × List Property) :=
  match ({} : Draft).writeFunction c decl with
  | (_, .ok function) => some (function.name, decl.parameters)
  | (_, .error _) => none

/-- The faults that are reported for the declaration. -/
def faults (c : Configuration) (decl : Declaration) : List RenderFault :=
  match ({} : Draft).writeFunction c decl with
  | (_, .ok function) => function.faults
  | (_, .error fault) => [fault]

/-- The name of the declaration's function, if it is written without faults. -/
def cleanName? (c : Configuration) (decl : Declaration) : Option String :=
  match ({} : Draft).writeFunction c decl with
  | (_, .ok function) => if function.isClean then some function.name else none
  | (_, .error _) => none

/-- The diagnostics that are reported for the declaration. -/
def diagnostics (c : Configuration) (decl : Declaration) : List Diagnostic :=
  (decl.faults c).map (·.toDiagnostic)

/-- Whether the function of the declaration is written, be it with faults or without. -/
def isWritten (c : Configuration) (decl : Declaration) : Bool :=
  (({} : Draft).writeFunction c decl).2.isOk

/-- A declaration has text for the sink exactly if its function is written. -/
theorem isSome_writtenText? (c : Configuration) (decl : Declaration) :
    (decl.writtenText? c).isSome = decl.isWritten c := by
  unfold writtenText? isWritten
  generalize ({} : Draft).writeFunction c decl = w
  obtain ⟨d, outcome⟩ := w
  cases outcome <;> rfl

/-- A declaration is listed under its function's name exactly if nothing is reported for it. -/
theorem isSome_cleanName? (c : Configuration) (decl : Declaration) :
    (decl.cleanName? c).isSome = (decl.faults c).isEmpty := by
  unfold cleanName? faults
  generalize ({} : Draft).writeFunction c decl = w
  obtain ⟨d, outcome⟩ := w
  cases outcome with
  | error fault => rfl
  | ok function =>
      obtain ⟨name, faults⟩ := function
      cases faults <;> rfl

/-! ## The declaration names no function -/

section

variable {c : Configuration} {decl : Declaration} {fault : RenderFault}

theorem writtenFunction?_of_error (h : requestedName c decl = .error fault) :
    decl.writtenFunction? c = none := by
  rw [writtenFunction?, Draft.writeFunction_of_error _ h]

theorem faults_of_error (h : requestedName c decl = .error fault) : decl.faults c = [fault] := by
  rw [faults, Draft.writeFunction_of_error _ h]

theorem cleanName?_of_error (h : requestedName c decl = .error fault) :
    decl.cleanName? c = none := by
  rw [cleanName?, Draft.writeFunction_of_error _ h]

end

/-! ## The declaration names a function -/

section

variable {c : Configuration} {decl : Declaration} {name : String}

/-- Under `discard` a function with a gap is not written, and its first gap is the fault. In every
other case the function is written, and all its gaps are faults. -/
theorem writeFunction_cases (h : requestedName c decl = .ok name) :
    (c.onGap = .discard ∧ ∃ d fault others,
      gapFaults decl.name decl.parameters = fault :: others ∧
      ({} : Draft).writeFunction c decl = (d, .error fault)) ∨
    ((c.onGap = .discard → gapFaults decl.name decl.parameters = []) ∧
      ({} : Draft).writeFunction c decl
        = (({} : Draft).raw (functionBlock name decl.parameters),
            .ok { name, faults := gapFaults decl.name decl.parameters })) := by
  cases decl.ending c with
  | rejected fault named write_eq =>
      rw [h] at named
      cases named
  | written other named complete write_eq =>
      obtain rfl := Except.ok.inj (named.symm.trans h)
      refine Or.inr ⟨complete, ?_⟩
      rw [write_eq, ← functionText_margin]
      rfl
  | stopped other named policy_eq fault others faults_eq start write_eq =>
      -- what the abandoned draft holds by then does not matter
      exact Or.inl ⟨policy_eq, _, fault, others, faults_eq, write_eq {}⟩

/-- A named function is written, except for one with a gap under `discard`. -/
theorem writtenFunction?_of_ok (h : requestedName c decl = .ok name) :
    decl.writtenFunction? c
      = if c.onGap = .discard ∧ gapFaults decl.name decl.parameters ≠ [] then none
        else some (name, decl.parameters) := by
  rw [writtenFunction?]
  rcases writeFunction_cases h with ⟨hpolicy, d, fault, others, hgaps, hw⟩ | ⟨hnil, hw⟩
  · rw [hw, if_pos ⟨hpolicy, by simp [hgaps]⟩]
  · rw [hw, if_neg (fun hgap => hgap.2 (hnil hgap.1))]

/-- For a named function every gap is reported under `keepPartial`, and the first one under
`discard`. -/
theorem faults_of_ok (h : requestedName c decl = .ok name) :
    decl.faults c
      = match c.onGap with
        | .discard => (gapFaults decl.name decl.parameters).take 1
        | .keepPartial => gapFaults decl.name decl.parameters := by
  rw [faults]
  rcases writeFunction_cases h with ⟨hpolicy, d, fault, others, hgaps, hw⟩ | ⟨hnil, hw⟩
  · rw [hw, hpolicy, hgaps]
    rfl
  · rw [hw]
    cases hpolicy : c.onGap with
    | discard => rw [hnil hpolicy]; rfl
    | keepPartial => rfl

/-- A named function is listed exactly if its types have no gap. -/
theorem cleanName?_of_ok (h : requestedName c decl = .ok name) :
    decl.cleanName? c
      = if gapFaults decl.name decl.parameters = [] then some name else none := by
  rw [cleanName?]
  rcases writeFunction_cases h with ⟨_, d, fault, others, hgaps, hw⟩ | ⟨_, hw⟩
  · rw [hw, hgaps, if_neg (List.cons_ne_nil fault others)]
  · rw [hw]
    simp [WrittenFunction.isClean]

end

/-- A function that is written under `discard` has no gaps. -/
theorem gaps_of_writtenFunction?_eq_some {c : Configuration} {decl : Declaration}
    (hpolicy : c.onGap = .discard) {f : String × List Property}
    (h : decl.writtenFunction? c = some f) : ∀ p ∈ f.2, p.type.gaps .property = [] := by
  cases hname : requestedName c decl with
  | error fault =>
      rw [writtenFunction?_of_error hname] at h
      cases h
  | ok name =>
      rw [writtenFunction?_of_ok hname] at h
      split at h
      · cases h
      next hgap =>
      injection h with h
      subst h
      have hnil : gapFaults decl.name decl.parameters = [] := by
        simpa [hpolicy] using hgap
      exact (gapFaults_eq_nil_iff decl.name decl.parameters).mp hnil

/-- The text for the sink is the block of the function that is written. -/
theorem writtenText?_eq_map (c : Configuration) (decl : Declaration) :
    decl.writtenText? c = (decl.writtenFunction? c).map fun f => functionBlock f.1 f.2 := by
  unfold writtenText? writtenFunction?
  cases h : requestedName c decl with
  | error fault => rw [Draft.writeFunction_of_error _ h]; rfl
  | ok name =>
      rcases writeFunction_cases h with ⟨_, d, fault, others, _, hw⟩ | ⟨_, hw⟩
      · rw [hw]
        rfl
      · rw [hw]
        simp [Draft.raw]

end Declaration

end Stubsmith
