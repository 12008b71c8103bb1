import Stubsmith.Kotlin.Function
import Stubsmith.Proofs.Kotlin.TypeGap

/-!
# The text of a function and its faults

`functionText` is the text of a function as one expression in its name and parameters, and
`gapFaults` lists the faults of all gaps in the parameters' types. Under `keepPartial` a draft grows
by that text and all faults are returned. Under `discard` the same holds if there are no faults, and
else the first of them ends the writing.
-/

namespace Stubsmith

open Kotlin

namespace Kotlin

/-- A parameter on a line of its own, with `lead` before it. If the type has no name, nothing
follows the colon and its blank, not even the end of the line. -/
def parameterText (lead : String) (p : Property) : String :=
  lead ++ p.name ++ ": " ++ p.type.spelling ++ (if p.type.isResolved then ",\n" else "")

/-- A function of that name and those parameters, with `margin` before every line. -/
def functionText (margin name : String) (parameters : List Property) : String :=
  (if parameters.isEmpty then margin ++ "fun " ++ name ++ "() \x7b\n"
    else margin ++ "fun " ++ name ++ "(\n"
      ++ String.join (parameters.map (parameterText (margin ++ "    ")))
      ++ margin ++ ") \x7b\n")
    ++ margin ++ "    println(\"Hallo aus Funktion -> " ++ name ++ "\")\n" ++ margin ++ "\x7d\n"

/-- The line of a parameter. It is not ended if the type has no name. -/
def parameterLine (p : Property) : String :=
  "    " ++ p.name ++ ": " ++ p.type.spelling ++ (if p.type.isResolved then ",\n" else "")

/-- A whole function at the margin. -/
def functionBlock (name : String) (parameters : List Property) : String :=
  (if parameters.isEmpty then "fun " ++ name ++ "() \x7b\n"
    else "fun " ++ name ++ "(\n" ++ String.join (parameters.map parameterLine) ++ ") \x7b\n")
  ++ "    println(\"Hallo aus Funktion -> " ++ name ++ "\")\n\x7d\n"

/-- At the margin the text of a function is its block. -/
theorem functionText_margin (name : String) (parameters : List Property) :
    functionText "" name parameters = functionBlock name parameters := by
  have hlines : parameterText ("" ++ "    ") = parameterLine := by
    funext p
    simp [parameterText, parameterLine]
  rw [functionText, functionBlock, hlines]
  simp [String.append_assoc]

/-- A fault for every gap in the types of the parameters, in the order of the text. -/
def gapFaults (owner : String) (parameters : List Property) : List RenderFault :=
  parameters.flatMap fun p => (p.type.gaps .property).map (.unresolvable (owner ++ "." ++ p.name))

theorem gapFaults_cons (owner : String) (p : Property) (rest : List Property) :
    gapFaults owner (p :: rest)
      = (p.type.gaps .property).map (.unresolvable (owner ++ "." ++ p.name))
        ++ gapFaults owner rest := by
  simp [gapFaults]

/-- There are no faults exactly if no type has a gap. -/
theorem gapFaults_eq_nil_iff (owner : String) (parameters : List Property) :
    gapFaults owner parameters = [] ↔ ∀ p ∈ parameters, p.type.gaps .property = [] := by
  simp [gapFaults]

/-- The first fault is that of the first gap, in the first parameter whose type has one. -/
theorem gapFaults_eq_cons {owner : String} {parameters : List Property} {fault : RenderFault}
    {others : List RenderFault} (h : gapFaults owner parameters = fault :: others) :
    ∃ earlier p later position more, parameters = earlier ++ p :: later ∧
      (∀ q ∈ earlier, q.type.gaps .property = []) ∧ p.type.gaps .property = position :: more ∧
      fault = .unresolvable (owner ++ "." ++ p.name) position := by
  induction parameters with
  | nil => simp [gapFaults] at h
  | cons p rest ih =>
      rw [gapFaults_cons] at h
      cases hgaps : p.type.gaps .property with
      | nil =>
          rw [hgaps, List.map_nil, List.nil_append] at h
          obtain ⟨earlier, q, later, position, more, rfl, hearlier, hq, hfault⟩ := ih h
          exact ⟨p :: earlier, q, later, position, more, rfl,
            List.forall_mem_cons.mpr ⟨hgaps, hearlier⟩, hq, hfault⟩
      | cons position more =>
          rw [hgaps, List.map_cons, List.cons_append, List.cons.injEq] at h
          exact ⟨[], p, rest, position, more, rfl, by simp, hgaps, h.1.symm⟩

/-- A gap is noticed when the function is being written. -/
theorem phase_of_mem_gapFaults {owner : String} {parameters : List Property} {fault : RenderFault}
    (h : fault ∈ gapFaults owner parameters) : fault.phase = "render" := by
  obtain ⟨p, _, hfault⟩ := List.mem_flatMap.mp h
  obtain ⟨position, _, rfl⟩ := List.mem_map.mp hfault
  rfl

/-- The text of a function up to the type of a parameter: the line that opens it, the parameters
before that one, and its name. -/
def functionStart (margin name : String) (earlier : List Property) (parameter : String) : String :=
  margin ++ "fun " ++ name ++ "(\n" ++ String.join (earlier.map (parameterText (margin ++ "    ")))
    ++ margin ++ "    " ++ parameter ++ ": "

end Kotlin

namespace Draft

/-! ## Parameters -/

/-- Under `keepPartial` every parameter is written and every gap reported. -/
theorem writeParameters_keepPartial (owner : String) (d : Draft) (parameters : List Property) :
    d.writeParameters .keepPartial owner parameters
      = (d.raw (String.join (parameters.map (parameterText (indentation d.depth)))),
          .ok (gapFaults owner parameters)) := by
  induction parameters generalizing d with
  | nil => simp [writeParameters, gapFaults]
  | cons p rest ih =>
      rw [writeParameters]
      simp only [writeTypeAround_eq]
      by_cases hp : p.type.isResolved = true
      · simp only [hp, if_true, ih, finishLine_eq_raw, beginLine_eq_raw, raw_raw, depth_raw]
        simp [gapFaults_cons, parameterText, hp, String.append_assoc]
      · simp only [hp, ih, beginLine_eq_raw, raw_raw]
        simp [gapFaults_cons, parameterText, hp, String.append_assoc]

/-- Under `discard` parameters without gaps are written before the others are turned to. -/
theorem writeParameters_discard_append {owner : String} (d : Draft) {earlier : List Property}
    (h : ∀ p ∈ earlier, p.type.gaps .property = []) (others : List Property) :
    d.writeParameters .discard owner (earlier ++ others)
      = (d.raw (String.join (earlier.map (parameterText (indentation d.depth))))).writeParameters
          .discard owner others := by
  induction earlier generalizing d with
  | nil => simp
  | cons p rest ih =>
      have hp : p.type.gaps .property = [] := h p List.mem_cons_self
      have hrest : ∀ q ∈ rest, q.type.gaps .property = [] :=
        fun q hq => h q (List.mem_cons_of_mem p hq)
      have hname : p.type.isResolved = true := TypeRef.isResolved_of_gaps_eq_nil hp
      rw [List.cons_append, writeParameters]
      simp only [writeType_of_gaps_eq_nil _ hp, ih _ hrest, finishLine_eq_raw, beginLine_eq_raw,
        raw_raw, depth_raw]
      simp [parameterText, hname, String.append_assoc]

/-- Under `discard` parameters without gaps are written as under `keepPartial`. -/
theorem writeParameters_discard_of_forall {owner : String} (d : Draft) {parameters : List Property}
    (h : ∀ p ∈ parameters, p.type.gaps .property = []) :
    d.writeParameters .discard owner parameters
      = (d.raw (String.join (parameters.map (parameterText (indentation d.depth)))), .ok []) := by
  have happend : d.writeParameters .discard owner (parameters ++ []) = _ :=
    writeParameters_discard_append d h []
  rwa [List.append_nil, writeParameters] at happend

/-- Under `discard` the writing of parameters ends at the first one with a gap, and in its type
where writing the type ends. -/
theorem writeParameters_discard_of_gap {owner : String} (d : Draft) {earlier : List Property}
    (h : ∀ q ∈ earlier, q.type.gaps .property = []) {p : Property} {part : String}
    {fault : RenderFault}
    (hp : ∀ e : Draft, e.writeType p.type (owner ++ "." ++ p.name) = (e.raw part, some fault))
    (later : List Property) :
    d.writeParameters .discard owner (earlier ++ p :: later)
      = (d.raw (String.join (earlier.map (parameterText (indentation d.depth)))
          ++ indentation d.depth ++ p.name ++ ": " ++ part), .error fault) := by
  rw [writeParameters_discard_append d h, writeParameters]
  simp only [hp, beginLine_eq_raw, raw_raw, depth_raw]
  simp only [String.append_assoc]

/-! ## Whole functions -/

theorem writeBody_eq (d : Draft) (name : String) :
    d.writeBody name = d.raw (indentation d.depth ++ "    println(\"Hallo aus Funktion -> " ++ name
      ++ "\")\n" ++ indentation d.depth ++ "\x7d\n") := by
  -- the margin and the call meet in one literal, which has to be split where the depth changes
  have hcall : "    println(\"Hallo aus Funktion -> "
      = "    " ++ "println(\"Hallo aus Funktion -> " := rfl
  simp only [writeBody, line_eq_raw, depth_indent, dedent_raw, dedent_indent, depth_raw, raw_raw,
    indentation_succ]
  simp only [String.append_assoc, String.reduceAppend]
  rw [hcall, String.append_assoc]

/-- A function whose parameters can all be written is written as `functionText`. -/
theorem writeNamed_of_writeParameters {policy : GapPolicy} {owner : String} (name : String)
    {parameters : List Property} (d : Draft) {faults : List RenderFault}
    (hnil : parameters = [] → faults = [])
    (h : ∀ e : Draft, e.writeParameters policy owner parameters
      = (e.raw (String.join (parameters.map (parameterText (indentation e.depth)))), .ok faults)) :
    d.writeNamed policy owner name parameters
      = (d.raw (functionText (indentation d.depth) name parameters), .ok { name, faults }) := by
  cases parameters with
  | nil =>
      rw [hnil rfl]
      simp [writeNamed, functionText, writeBody_eq, line_eq_raw, String.append_assoc]
  | cons p rest =>
      -- the parameters are written one step deeper, and the closing line and the body are not
      simp only [writeNamed, List.isEmpty_cons, Bool.false_eq_true, if_false, h]
      simp only [line_eq_raw, indent_raw, dedent_raw, dedent_indent, depth_indent, depth_raw,
        raw_raw, writeBody_eq, indentation_succ]
      simp [functionText, String.append_assoc]

/-- Under `keepPartial` the whole function is written and every gap reported. -/
theorem writeNamed_keepPartial (owner name : String) (parameters : List Property) (d : Draft) :
    d.writeNamed .keepPartial owner name parameters
      = (d.raw (functionText (indentation d.depth) name parameters),
          .ok { name, faults := gapFaults owner parameters }) :=
  writeNamed_of_writeParameters name d (fun h => by rw [h]; rfl)
    (fun e => writeParameters_keepPartial owner e parameters)

/-- Under `discard` a function without gaps is written as under `keepPartial`. -/
theorem writeNamed_discard_of_eq_nil {owner : String} (name : String) {parameters : List Property}
    (d : Draft) (h : gapFaults owner parameters = []) :
    d.writeNamed .discard owner name parameters
      = (d.raw (functionText (indentation d.depth) name parameters), .ok { name }) :=
  writeNamed_of_writeParameters name d (fun _ => rfl)
    (fun e => writeParameters_discard_of_forall e ((gapFaults_eq_nil_iff owner parameters).mp h))

/-- Under `discard` a function with a gap is written up to there, and the draft is left one step
deeper. -/
theorem writeNamed_discard_of_gap {owner : String} (name : String) (d : Draft)
    {earlier : List Property} (h : ∀ q ∈ earlier, q.type.gaps .property = []) {p : Property}
    {part : String} {fault : RenderFault}
    (hp : ∀ e : Draft, e.writeType p.type (owner ++ "." ++ p.name) = (e.raw part, some fault))
    (later : List Property) :
    d.writeNamed .discard owner name (earlier ++ p :: later)
      = (d.indent.raw (functionStart (indentation d.depth) name earlier p.name ++ part),
          .error fault) := by
  have hne : (earlier ++ p :: later).isEmpty = false := by simp
  rw [writeNamed, hne]
  simp only [Bool.false_eq_true, if_false, writeParameters_discard_of_gap _ h hp, line_eq_raw,
    indent_raw, depth_raw, depth_indent, raw_raw, indentation_succ]
  simp [functionStart, String.append_assoc]

end Draft

/-! ## Declarations -/

/-- The name of the function that a declaration asks for, once its kind has been checked. What types
the properties have does not matter for it. -/
def Kotlin.requestedName (c : Configuration) (decl : Declaration) : Except RenderFault String :=
  match checkKind c decl with
  | .error fault => .error fault
  | .ok _ => functionName c decl

/-- A declaration is turned away before anything is written. -/
theorem Kotlin.phase_of_requestedName_eq_error {c : Configuration} {decl : Declaration}
    {fault : RenderFault} (h : requestedName c decl = .error fault) :
    fault.phase = "validate" := by
  unfold requestedName checkKind functionName at h
  by_cases hkind : decl.kind.isObject = true
  · rw [if_pos hkind] at h
    simp only at h
    split at h
    · cases h
      rfl
    · split at h
      · cases h
      · cases h
        rfl
  · rw [if_neg hkind] at h
    cases h
    rfl

/-- The same options under another policy. -/
def Configuration.under (c : Configuration) (policy : GapPolicy) : Configuration :=
  { c with onGap := policy }

/-- What function a declaration asks for does not depend on the policy. -/
theorem Kotlin.requestedName_under_cases (c : Configuration) (decl : Declaration) :
    (∃ fault, ∀ policy, requestedName (c.under policy) decl = .error fault) ∨
    (∃ name, ∀ policy, requestedName (c.under policy) decl = .ok name) := by
  cases h : requestedName c decl with
  | error fault => exact Or.inl ⟨fault, fun _ => h⟩
  | ok name => exact Or.inr ⟨name, fun _ => h⟩

/-- The name that the marker gives to the function: the name argument of the first annotation that
has the marker's simple name, if there is one and it is a text. -/
def Declaration.givenName? (c : Configuration) (decl : Declaration) : Option String :=
  match (decl.annotations.find? (·.simpleName == c.markerSimpleName)).bind
      (·.get? c.nameArgument) with
  | some (.text name) => some name
  | _ => none

/-- A declaration names a function exactly if it is an object and its marker gives a name. -/
theorem Kotlin.requestedName_eq_ok_iff (c : Configuration) (decl : Declaration) (name : String) :
    requestedName c decl = .ok name
      ↔ decl.kind = .objectKind ∧ decl.givenName? c = some name := by
  unfold requestedName checkKind Declaration.givenName?
  by_cases hkind : decl.kind = .objectKind
  · have hobject : decl.kind.isObject = true := by rw [hkind]; rfl
    rw [if_pos hobject]
    simp only [functionName, Declaration.findBySimpleName?, hkind, true_and]
    cases (decl.annotations.find? (·.simpleName == c.markerSimpleName)).bind
        (·.get? c.nameArgument) with
    | none => simp
    | some value => cases value <;> simp [Constant.text?]
  · have hobject : ¬ decl.kind.isObject = true := by
      simpa [DeclarationKind.isObject] using hkind
    rw [if_neg hobject]
    simp [hkind]

namespace Draft

/-- A declaration that does not name a function leaves the draft as it was. -/
theorem writeFunction_of_error {c : Configuration} {decl : Declaration} {fault : RenderFault}
    (d : Draft) (h : requestedName c decl = .error fault) :
    d.writeFunction c decl = (d, .error fault) := by
  unfold requestedName at h
  unfold writeFunction
  cases hkind : checkKind c decl with
  | error f =>
      rw [hkind] at h
      injection h with h
      rw [h]
  | ok u =>
      rw [hkind] at h
      simp only at h ⊢
      rw [h]

/-- A declaration that names a function has it written with the declaration's own name as owner. -/
theorem writeFunction_of_ok {c : Configuration} {decl : Declaration} {name : String} (d : Draft)
    (h : requestedName c decl = .ok name) :
    d.writeFunction c decl = d.writeNamed c.onGap decl.name name decl.parameters := by
  unfold requestedName at h
  unfold writeFunction
  cases hkind : checkKind c decl with
  | error f =>
      rw [hkind] at h
      simp at h
  | ok u =>
      rw [hkind] at h
      simp only at h ⊢
      rw [h]

/-- Under `keepPartial` a declaration that names a function has all of it written. -/
theorem writeFunction_keepPartial {c : Configuration} {decl : Declaration} {name : String}
    (d : Draft) (h : requestedName c decl = .ok name) :
    d.writeFunction (c.under .keepPartial) decl
      = (d.raw (functionText (indentation d.depth) name decl.parameters),
          .ok { name, faults := gapFaults decl.name decl.parameters }) := by
  rw [← writeNamed_keepPartial]
  exact d.writeFunction_of_ok h

/-- Under `discard` it is written alike if its parameters have no gaps. -/
theorem writeFunction_discard_of_eq_nil {c : Configuration} {decl : Declaration} {name : String}
    (d : Draft) (h : requestedName c decl = .ok name)
    (hnil : gapFaults decl.name decl.parameters = []) :
    d.writeFunction (c.under .discard) decl
      = (d.raw (functionText (indentation d.depth) name decl.parameters), .ok { name }) := by
  rw [← writeNamed_discard_of_eq_nil name d hnil]
  exact d.writeFunction_of_ok h

end Draft

/-! ## How the writing of a function ends -/

/-- How the writing of a declaration's function ends. It does not depend on what the draft holds,
and on its depth only where blanks are written. -/
inductive Declaration.Ending (c : Configuration) (decl : Declaration) : Prop where
  /-- The declaration does not name a function. -/
  | rejected (fault : RenderFault) (named : requestedName c decl = .error fault)
      (write_eq : ∀ d : Draft, d.writeFunction c decl = (d, .error fault))
  /-- The function is written to its end. -/
  | written (name : String) (named : requestedName c decl = .ok name)
      (complete : c.onGap = .discard → gapFaults decl.name decl.parameters = [])
      (write_eq : ∀ d : Draft, d.writeFunction c decl
        = (d.raw (functionText (Draft.indentation d.depth) name decl.parameters),
            .ok { name, faults := gapFaults decl.name decl.parameters }))
  /-- The first gap ends the writing inside the list of parameters. -/
  | stopped (name : String) (named : requestedName c decl = .ok name)
      (policy_eq : c.onGap = .discard) (fault : RenderFault) (others : List RenderFault)
      (faults_eq : gapFaults decl.name decl.parameters = fault :: others)
      (start : String → String)
      (write_eq : ∀ d : Draft, d.writeFunction c decl
        = (d.indent.raw (start (Draft.indentation d.depth)), .error fault))

/-- The writing of a function ends in one of the three ways. -/
theorem Declaration.ending (c : Configuration) (decl : Declaration) : decl.Ending c := by
  cases named : requestedName c decl with
  | error fault => exact .rejected fault named fun d => d.writeFunction_of_error named
  | ok name =>
      cases policy_eq : c.onGap with
      | keepPartial =>
          refine .written name named (by simp [policy_eq]) fun d => ?_
          rw [d.writeFunction_of_ok named, policy_eq, Draft.writeNamed_keepPartial]
      | discard =>
          cases faults_eq : gapFaults decl.name decl.parameters with
          | nil =>
              refine .written name named (fun _ => faults_eq) fun d => ?_
              rw [d.writeFunction_of_ok named, policy_eq,
                Draft.writeNamed_discard_of_eq_nil name d faults_eq, faults_eq]
          | cons fault others =>
              obtain ⟨earlier, p, later, position, more, hparameters, hearlier, hgaps, rfl⟩ :=
                gapFaults_eq_cons faults_eq
              obtain ⟨part, _, _, hwrite, _⟩ := TypeRef.exists_parts_of_gaps hgaps
              refine .stopped name named policy_eq _ others faults_eq
                (fun margin => functionStart margin name earlier p.name ++ part) fun d => ?_
              rw [d.writeFunction_of_ok named, policy_eq, hparameters]
              exact Draft.writeNamed_discard_of_gap name d hearlier (fun e => hwrite e _) later

/-- Whatever the policy, a function without gaps is written. -/
theorem Draft.writeFunction_of_eq_nil {c : Configuration} {decl : Declaration} {name : String}
    (d : Draft) (h : requestedName c decl = .ok name)
    (hnil : gapFaults decl.name decl.parameters = []) :
    d.writeFunction c decl
      = (d.raw (functionText (indentation d.depth) name decl.parameters), .ok { name }) := by
  cases decl.ending c with
  | rejected fault named write_eq =>
      rw [h] at named
      cases named
  | written other named complete write_eq =>
      obtain rfl := Except.ok.inj (named.symm.trans h)
      rw [write_eq, hnil]
  | stopped other named policy_eq fault others faults_eq start write_eq =>
      rw [hnil] at faults_eq
      cases faults_eq

/-- And one that is reported as clean has none. -/
theorem Draft.complete_of_isClean {c : Configuration} {decl : Declaration} {d : Draft}
    {f : WrittenFunction} (h : (d.writeFunction c decl).2 = .ok f) (hclean : f.isClean = true) :
    requestedName c decl = .ok f.name ∧ gapFaults decl.name decl.parameters = [] := by
  cases decl.ending c with
  | rejected fault named write_eq =>
      rw [write_eq] at h
      cases h
  | written name named complete write_eq =>
      rw [write_eq] at h
      injection h with h
      subst h
      exact ⟨named, List.isEmpty_iff.mp hclean⟩
  | stopped name named policy_eq fault others faults_eq start write_eq =>
      rw [write_eq] at h
      cases h

end Stubsmith
