import Stubsmith.Proofs.Kotlin.Function

/-!
# The first gap of a declaration

Under `discard` a function is written up to the first gap among its parameters, and under
`keepPartial` around all of them. `Declaration.FirstGap` is the place of that gap, and
`FirstGap.fill` puts a type there. Both policies write the same up to it:
`Draft.writeFunction_agree_until_gap`.
-/

namespace Stubsmith

open Kotlin

/-! ## Where the first gap is -/

/-- The first gap among the parameters of a declaration: the property whose type has it, and the
properties on both sides. The valid ones before it have no gaps. -/
structure Declaration.FirstGap (decl : Declaration) where
  before : List Property
  holder : Property
  after : List Property
  properties_eq : decl.properties = before ++ holder :: after
  holder_valid : holder.valid = true
  before_complete : ∀ q ∈ before, q.valid = true → q.type.gaps .property = []
  position : GapPosition
  others : List GapPosition
  gaps_eq : holder.type.gaps .property = position :: others

namespace Declaration.FirstGap

variable {decl : Declaration} (gap : decl.FirstGap)

/-- What is reported of the gap. -/
def fault : RenderFault :=
  .unresolvable (decl.name ++ "." ++ gap.holder.name) gap.position

/-- The parameters before the one with the gap. -/
def earlier : List Property :=
  gap.before.filter (·.valid)

/-- The parameters behind the one with the gap. -/
def later : List Property :=
  gap.after.filter (·.valid)

/-- The property that has the gap, with `u` in its place. -/
def filled (u : TypeRef) : Property :=
  { gap.holder with type := u.fillGapOf gap.holder.type }

/-- The declaration with `u` in the place of the gap. -/
def fill (u : TypeRef) : Declaration :=
  { decl with properties := gap.before ++ gap.filled u :: gap.after }

theorem parameters_eq : decl.parameters = gap.earlier ++ gap.holder :: gap.later := by
  rw [parameters, gap.properties_eq, List.filter_append, List.filter_cons_of_pos gap.holder_valid]
  rfl

/-- Filling the gap changes one parameter only. -/
theorem parameters_fill (u : TypeRef) :
    (gap.fill u).parameters = gap.earlier ++ gap.filled u :: gap.later := by
  have hvalid : (gap.filled u).valid = true := gap.holder_valid
  rw [parameters, fill, List.filter_append, List.filter_cons_of_pos hvalid]
  rfl

/-- The parameters before the one with the gap are complete. -/
theorem gaps_of_mem_earlier : ∀ q ∈ gap.earlier, q.type.gaps .property = [] := by
  intro q hq
  obtain ⟨hbefore, hvalid⟩ := List.mem_filter.mp hq
  exact gap.before_complete q hbefore hvalid

end Declaration.FirstGap

/-- The first of the faults of a declaration is that of its first gap. -/
theorem Declaration.exists_firstGap {decl : Declaration} {fault : RenderFault}
    {others : List RenderFault} (h : gapFaults decl.name decl.parameters = fault :: others) :
    ∃ gap : decl.FirstGap, gap.fault = fault := by
  obtain ⟨earlier, p, later, position, more, hparameters, hearlier, hgaps, rfl⟩ :=
    gapFaults_eq_cons h
  -- the parameters are cut at `p`, and so are the properties they are taken from
  obtain ⟨before, rest, hproperties, rfl, hrest⟩ := List.filter_eq_append_iff.mp hparameters
  obtain ⟨between, after, rfl, hbetween, hvalid, rfl⟩ := List.filter_eq_cons_iff.mp hrest
  refine ⟨⟨before ++ between, p, after, ?_, hvalid, ?_, position, more, hgaps⟩, rfl⟩
  · rw [hproperties, List.append_assoc]
  · intro q hq hq_valid
    rcases List.mem_append.mp hq with hq | hq
    · exact hearlier q (List.mem_filter.mpr ⟨hq, hq_valid⟩)
    · exact absurd hq_valid (hbetween q hq)

/-! ## The text around a parameter -/

/-- In the text of a function the type of a parameter stands behind the start that leads to it, and
something follows. -/
theorem Kotlin.functionText_eq_start (margin name : String) (earlier : List Property) (p : Property)
    (later : List Property) :
    ∃ more, more ≠ "" ∧ functionText margin name (earlier ++ p :: later)
      = functionStart margin name earlier p.name ++ p.type.spelling ++ more := by
  have hne : (earlier ++ p :: later).isEmpty = false := by simp
  refine ⟨(if p.type.isResolved then ",\n" else "")
      ++ String.join (later.map (parameterText (margin ++ "    "))) ++ margin ++ ") \x7b\n"
      ++ margin ++ "    println(\"Hallo aus Funktion -> " ++ name ++ "\")\n" ++ margin ++ "\x7d\n",
    ?_, ?_⟩
  · simp
  · rw [functionText, hne]
    simp [functionStart, parameterText, String.append_assoc]

/-! ## Both policies -/

/-- Of the drafts `strict` and `kept` that both come from writing a function into `d`, the first
ends where the first gap of the declaration would have been written. -/
structure Draft.StopsAt {decl : Declaration} (gap : decl.FirstGap) (c : Configuration)
    (name : String) (d strict kept : Draft) : Prop where
  /-- The draft is left inside the list of parameters. -/
  depth_eq : strict.depth = d.depth + 1
  /-- All parameters before the gap are complete, and of the type that has it the part before the
  gap is written. -/
  text_eq : ∃ part rest, gap.holder.type.spelling = part ++ rest ∧
    (∀ u : TypeRef, (u.fillGapOf gap.holder.type).spelling = part ++ u.spelling ++ rest) ∧
    strict.text = d.text ++ functionStart (indentation d.depth) name gap.earlier gap.holder.name
      ++ part
  /-- The other draft goes on from there. -/
  kept_eq : ∃ more, more ≠ "" ∧ kept.text = strict.text ++ more
  /-- Whatever type is put in the place of the gap is written there. -/
  fill_eq : ∀ u : TypeRef, ∃ more,
    (d.writeFunction (c.under .keepPartial) (gap.fill u)).1.text
      = strict.text ++ u.spelling ++ more

/-- Under `discard` a function with a gap is written up to the gap. -/
theorem Draft.writeFunction_discard_of_firstGap {c : Configuration} {decl : Declaration}
    {name : String} (d : Draft) (h : requestedName c decl = .ok name) (gap : decl.FirstGap)
    {part : String}
    (hpart : ∀ (e : Draft) (symbol : String),
      e.writeType gap.holder.type symbol = (e.raw part, some (.unresolvable symbol gap.position))) :
    d.writeFunction (c.under .discard) decl
      = (d.indent.raw
          (functionStart (indentation d.depth) name gap.earlier gap.holder.name ++ part),
            .error gap.fault) := by
  have hname : requestedName (c.under .discard) decl = .ok name := h
  rw [writeFunction_of_ok d hname, gap.parameters_eq]
  exact writeNamed_discard_of_gap name d gap.gaps_of_mem_earlier (fun e => hpart e _) gap.later

/-- Under `discard` the draft ends at the first gap, and the fault of that gap is the error. -/
theorem Draft.writeFunction_stopsAt {c : Configuration} {decl : Declaration} {name : String}
    (d : Draft) (h : requestedName c decl = .ok name) (gap : decl.FirstGap) :
    let strict := d.writeFunction (c.under .discard) decl
    let kept := d.writeFunction (c.under .keepPartial) decl
    strict.2 = .error gap.fault ∧ d.StopsAt gap c name strict.1 kept.1 := by
  obtain ⟨part, rest, hspelling, hwrite, hfill⟩ := TypeRef.exists_parts_of_gaps gap.gaps_eq
  -- what function is asked for does not depend on the types of the properties
  have hfilled : ∀ u, requestedName c (gap.fill u) = .ok name := fun _ => h
  intro strict kept
  have hstrict : strict = (d.indent.raw
      (functionStart (indentation d.depth) name gap.earlier gap.holder.name ++ part),
        .error gap.fault) :=
    d.writeFunction_discard_of_firstGap h gap hwrite
  have hkept : kept.1 = d.raw (functionText (indentation d.depth) name decl.parameters) :=
    congrArg Prod.fst (d.writeFunction_keepPartial h)
  rw [hstrict, hkept]
  refine ⟨rfl, rfl, ⟨part, rest, hspelling, hfill, ?_⟩, ?_, ?_⟩
  · simp [raw, indent, String.append_assoc]
  · obtain ⟨more, hmore, htext⟩ := functionText_eq_start (indentation d.depth) name gap.earlier
      gap.holder gap.later
    refine ⟨rest ++ more, by simp [hmore], ?_⟩
    rw [gap.parameters_eq, htext, hspelling]
    simp [raw, indent, String.append_assoc]
  · intro u
    obtain ⟨more, _, htext⟩ := functionText_eq_start (indentation d.depth) name gap.earlier
      (gap.filled u) gap.later
    refine ⟨rest ++ more, ?_⟩
    rw [d.writeFunction_keepPartial (hfilled u), gap.parameters_fill, htext]
    simp [raw, indent, Declaration.FirstGap.filled, hfill, String.append_assoc]

/-- **The policies agree up to the first gap.** A declaration that names no function is turned away
under both with the same fault, and the draft stays as it was. Any other is written under
`keepPartial`. If nothing had to be left out, it is written alike under `discard`. Else the first
fault reported under `keepPartial` is the error under `discard`, and the draft ends at the first
gap.
-/
theorem Draft.writeFunction_agree_until_gap (c : Configuration) (decl : Declaration) (d : Draft) :
    let strict := d.writeFunction (c.under .discard) decl
    let kept := d.writeFunction (c.under .keepPartial) decl
    (∀ fault, requestedName c decl = .error fault →
      fault.phase = "validate" ∧ strict = (d, .error fault) ∧ kept = (d, .error fault)) ∧
    (∀ name, requestedName c decl = .ok name → ∃ f, kept.2 = .ok f ∧ f.name = name ∧
      (f.faults = [] → strict.2 = .ok { name } ∧ strict.1 = kept.1) ∧
      (∀ fault others, f.faults = fault :: others → strict.2 = .error fault ∧
        ∃ gap : decl.FirstGap, gap.fault = fault ∧ d.StopsAt gap c name strict.1 kept.1)) := by
  intro strict kept
  constructor
  · intro fault h
    exact ⟨phase_of_requestedName_eq_error h, d.writeFunction_of_error h,
      d.writeFunction_of_error h⟩
  · intro name h
    have hkept : kept
        = (d.raw (functionText (indentation d.depth) name decl.parameters),
            .ok { name, faults := gapFaults decl.name decl.parameters }) :=
      d.writeFunction_keepPartial h
    refine ⟨_, congrArg Prod.snd hkept, rfl, ?_, ?_⟩
    · intro hnil
      have hstrict : strict
          = (d.raw (functionText (indentation d.depth) name decl.parameters), .ok { name }) :=
        d.writeFunction_discard_of_eq_nil h hnil
      rw [hstrict, hkept]
      exact ⟨rfl, rfl⟩
    · intro fault others hcons
      obtain ⟨gap, rfl⟩ := Declaration.exists_firstGap hcons
      obtain ⟨herror, hstops⟩ := d.writeFunction_stopsAt h gap
      exact ⟨herror, gap, rfl, hstops⟩

/-- A marked object with a complete parameter, one whose type has a gap in the second of its
arguments, and one that is not valid. -/
def halfObject : Declaration :=
  let marker : Annotation :=
    .withArgument { name := "org.example.Function" } "erstesArgument" (.text "half")
  let list : TypeRef := (TypeRef.named "List").withArgument { variance := .covariant }
  let map : TypeRef := ((TypeRef.named "Map").withArgument .star).withArgument (.invariant list)
  { name := "org.example.Half", kind := .objectKind, annotations := [marker]
    properties := [.bare "a" (.named "Int"), (Property.bare "x" .unresolved).withMark false,
      .bare "m" map] }

/-- As a class `halfObject` is turned away, without its properties it is written alike under both
policies, and as it is the policies part inside the type of its second parameter. -/
theorem halfObject_agrees_until_gap :
    let write := fun policy decl =>
      ({} : Draft).writeFunction (({} : Configuration).under policy) decl
    let asClass := { halfObject with kind := .classKind }
    let empty := { halfObject with properties := [] }
    (write .discard asClass = write .keepPartial asClass ∧
      (write .discard asClass).2 = .error (.wrongKind "org.example.Half" .classKind "Function")) ∧
    (write .discard empty).1 = (write .keepPartial empty).1 ∧
    (write .discard halfObject).2 = .error (.unresolvable "org.example.Half.m" .argument) ∧
    (write .discard halfObject).1.text = "fun half(\n    a: Int,\n    m: Map<*, List<out " ∧
    ∃ more, more ≠ "" ∧
      (write .keepPartial halfObject).1.text = (write .discard halfObject).1.text ++ more := by
  intro write asClass empty
  refine ⟨?_, ?_, ?_⟩
  · obtain ⟨herror, _⟩ := Draft.writeFunction_agree_until_gap {} asClass {}
    obtain ⟨_, hstrict, hkept⟩ := herror (.wrongKind "org.example.Half" .classKind "Function") rfl
    exact ⟨hstrict.trans hkept.symm, congrArg Prod.snd hstrict⟩
  · obtain ⟨_, hok⟩ := Draft.writeFunction_agree_until_gap {} empty {}
    obtain ⟨f, hf, _, hclean, _⟩ := hok "half" rfl
    have hwritten : f = { name := "half" } := Except.ok.inj (hf.symm.trans rfl)
    exact (hclean (by rw [hwritten])).2
  · obtain ⟨_, hok⟩ := Draft.writeFunction_agree_until_gap {} halfObject {}
    obtain ⟨f, hf, _, _, hgap⟩ := hok "half" rfl
    have hwritten : f
        = { name := "half", faults := [.unresolvable "org.example.Half.m" .argument] } :=
      Except.ok.inj (hf.symm.trans rfl)
    obtain ⟨herror, gap, _, hstops⟩ := hgap _ _ (congrArg WrittenFunction.faults hwritten)
    exact ⟨herror, by decide, hstops.kept_eq⟩

end Stubsmith
