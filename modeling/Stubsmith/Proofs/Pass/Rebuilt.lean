import Stubsmith.Proofs.Kotlin.TypeNormal
import Stubsmith.Proofs.Model.Rebuilt
import Stubsmith.Proofs.Pass.Indifference

/-!
# Passes over rebuilt declarations

What the operations of building change in a declaration is not written: a star stands for itself,
and a missing argument type is a gap like an unresolved one. So a pass does the same with a
declaration and with what is built from its parts, while the two are identical exactly if all types
of the properties are plain (`runPass_rebuilt`).
-/

namespace Stubsmith

open Kotlin

/-! ## Types -/

mutual

/-- A rebuilt type has the normal form of the type. -/
theorem TypeRef.normal_rebuilt : (t : TypeRef) → t.rebuilt.normal = t.normal
  | ⟨none, nullable, arguments⟩ => by rw [TypeRef.rebuilt_eq, TypeRef.normal, TypeRef.normal]
  | ⟨some name, nullable, arguments⟩ => by
      rw [TypeRef.rebuilt_eq, TypeRef.normal, TypeRef.normal,
        TypeRef.normalArguments_rebuiltArguments arguments]

theorem TypeRef.normalArguments_rebuiltArguments : (arguments : List (Projection TypeRef)) →
    TypeRef.normalArguments (TypeRef.rebuiltArguments arguments)
      = TypeRef.normalArguments arguments
  | [] => rfl
  | a :: rest => by
      rw [TypeRef.rebuiltArguments, TypeRef.normalArguments, TypeRef.normalArguments,
        TypeRef.normalArgument_rebuiltArgument a, TypeRef.normalArguments_rebuiltArguments rest]

theorem TypeRef.normalArgument_rebuiltArgument : (a : Projection TypeRef) →
    TypeRef.normalArgument (TypeRef.rebuiltArgument a) = TypeRef.normalArgument a
  | ⟨.star, _⟩ => rfl
  | ⟨.invariant, type⟩ => congrArg TypeArgument.invariant (TypeRef.normal_rebuiltType type)
  | ⟨.covariant, type⟩ => congrArg TypeArgument.covariant (TypeRef.normal_rebuiltType type)
  | ⟨.contravariant, type⟩ => congrArg TypeArgument.contravariant (TypeRef.normal_rebuiltType type)

/-- A missing type is rebuilt as an unresolved one, which is its normal form. -/
theorem TypeRef.normal_rebuiltType : (type : Option TypeRef) →
    (TypeRef.rebuiltType type).normal = TypeRef.normalType type
  | none => rfl
  | some t => TypeRef.normal_rebuilt t

end

theorem TypeRef.isResolved_rebuilt (t : TypeRef) : t.rebuilt.isResolved = t.isResolved := by
  rw [TypeRef.rebuilt_eq]
  rfl

/-! ## Functions -/

namespace Draft

/-- Parameters of rebuilt types are written like those of the types. -/
theorem writeParameters_rebuilt (policy : GapPolicy) (owner : String) (d : Draft)
    (ps : List Property) :
    d.writeParameters policy owner (ps.map fun p => { p with type := p.type.rebuilt })
      = d.writeParameters policy owner ps := by
  induction ps generalizing d with
  | nil => rfl
  | cons p rest ih =>
      cases policy with
      | discard =>
          simp only [List.map_cons, writeParameters, writeType_congr p.type.normal_rebuilt, ih]
      | keepPartial =>
          simp only [List.map_cons, writeParameters, writeTypeAround_congr p.type.normal_rebuilt,
            p.type.isResolved_rebuilt, ih]

/-- A rebuilt declaration is written like the declaration. -/
theorem writeFunction_rebuilt (c : Configuration) (decl : Declaration) (d : Draft) :
    d.writeFunction c decl.rebuilt = d.writeFunction c decl := by
  have hparameters : decl.rebuilt.parameters
      = decl.parameters.map fun p => { p with type := p.type.rebuilt } := by
    rw [decl.rebuilt_eq, Declaration.parameters, Declaration.parameters, List.filter_map]
    rfl
  have hkind : checkKind c decl.rebuilt = checkKind c decl := by
    rw [decl.rebuilt_eq]
    rfl
  have hname : functionName c decl.rebuilt = functionName c decl := by
    rw [decl.rebuilt_eq]
    rfl
  have howner : decl.rebuilt.name = decl.name := by rw [decl.rebuilt_eq]
  rw [writeFunction, writeFunction, hkind, hname, hparameters, howner]
  simp only [writeNamed, List.isEmpty_map, writeParameters_rebuilt]

end Draft

/-! ## Passes -/

/-- The declaration itself, or what is built from its parts. -/
def Declaration.RebuildsTo (decl built : Declaration) : Prop :=
  built = decl ∨ built = decl.rebuilt

section

variable {decl built : Declaration}

theorem Declaration.RebuildsTo.name_eq (h : decl.RebuildsTo built) : built.name = decl.name := by
  rcases h with rfl | rfl
  · rfl
  · rw [decl.rebuilt_eq]

theorem Declaration.RebuildsTo.valid_eq (h : decl.RebuildsTo built) :
    built.valid = decl.valid := by
  rcases h with rfl | rfl
  · rfl
  · rw [decl.rebuilt_eq]

theorem Declaration.RebuildsTo.isAnnotatedWith_eq (h : decl.RebuildsTo built) (marker : String) :
    built.isAnnotatedWith marker = decl.isAnnotatedWith marker := by
  rcases h with rfl | rfl
  · rfl
  · rw [decl.rebuilt_eq]
    rfl

/-- A step does the same with a rebuilt declaration. -/
theorem Progress.step_rebuildsTo {σ : Type} (h : decl.RebuildsTo built) (S : Sink σ)
    (c : Configuration) (p : Progress σ) : p.step S c built = p.step S c decl := by
  have hwritten : ({} : Draft).writeFunction c built = ({} : Draft).writeFunction c decl := by
    rcases h with rfl | rfl
    · rfl
    · exact Draft.writeFunction_rebuilt c decl {}
  rw [step, step, hwritten]
  simp only [fail, h.name_eq]

end

section

variable {xs ys : List Declaration}

/-- A run does the same with rebuilt declarations. -/
theorem Progress.run_rebuildsTo {σ : Type} (h : List.Forall₂ Declaration.RebuildsTo xs ys)
    (S : Sink σ) (c : Configuration) (p : Progress σ) : p.run S c xs = p.run S c ys := by
  induction h generalizing p with
  | nil => rfl
  | cons hfirst _ ih =>
      rw [run, run, step_rebuildsTo hfirst]
      split
      · rfl
      · exact ih _

/-- Rebuilt declarations are selected with the declarations. -/
theorem selection_rebuildsTo (h : List.Forall₂ Declaration.RebuildsTo xs ys) (marker : String) :
    List.Forall₂ Declaration.RebuildsTo (selection xs marker) (selection ys marker) := by
  induction h with
  | nil => exact .nil
  | cons hfirst _ ih =>
      rw [selection, selection, List.filter_cons, List.filter_cons,
        hfirst.isAnnotatedWith_eq marker]
      split
      · exact .cons hfirst ih
      · exact ih

/-- Rebuilt declarations are deferred with the declarations, under their names. -/
theorem map_name_deferred_rebuildsTo (h : List.Forall₂ Declaration.RebuildsTo xs ys) :
    (xs.filter (!·.valid)).map (·.name) = (ys.filter (!·.valid)).map (·.name) := by
  induction h with
  | nil => rfl
  | cons hfirst _ ih =>
      rw [List.filter_cons, List.filter_cons, hfirst.valid_eq]
      split
      · rw [List.map_cons, List.map_cons, hfirst.name_eq, ih]
      · exact ih

end

/-- **Building reaches every declaration up to what is not written.** A declaration is identical to
what is built from its parts exactly if among the generic arguments of its property types, at any
depth, all stars are without a type and all others have one. In either case, if declarations of a
corpus give way to what is built from them, a pass leaves the sink in the same state after the same
operations, reports the same diagnostics, and lists the same names or ends with the same fault,
whatever the configuration and the sink. -/
theorem runPass_rebuilt :
    (∀ decl : Declaration, decl.rebuilt = decl ↔
      ∀ p ∈ decl.properties, ∀ a, p.type.HasArgument a → (a.type = none ↔ a.variance = .star)) ∧
    ∀ {σ : Type} (S : Sink σ) (c : Configuration) {xs ys : List Declaration} (store : σ)
        (log : Log), List.Forall₂ Declaration.RebuildsTo xs ys →
      let pass := runPass S c xs store log
      let pass' := runPass S c ys store log
      pass.store = pass'.store ∧ pass.log = pass'.log ∧
        pass.outcome.map (·.names) = pass'.outcome.map (·.names) ∧
        (runPass S.traced c xs (store, []) log).store.2
          = (runPass S.traced c ys (store, []) log).store.2 := by
  refine ⟨Declaration.rebuilt_eq_self_iff, ?_⟩
  intro σ S c xs ys store log h
  have hselected := selection_rebuildsTo h c.marker
  have hempty : (selection xs c.marker).isEmpty = (selection ys c.marker).isEmpty := by
    rw [Bool.eq_iff_iff, List.isEmpty_iff_length_eq_zero, List.isEmpty_iff_length_eq_zero,
      hselected.length_eq]
  have hdeferred := map_name_deferred_rebuildsTo hselected
  obtain ⟨hstore, hlog, hnames⟩ := runPass_congr_of_run S hempty
    (Progress.run_rebuildsTo hselected S.scoped c) hdeferred store log
  obtain ⟨htraced, _, _⟩ := runPass_congr_of_run S.traced hempty
    (Progress.run_rebuildsTo hselected S.traced.scoped c) hdeferred (store, []) log
  exact ⟨hstore, hlog, hnames, congrArg Prod.snd htraced⟩

/-- A marked object with a type that building changes: its star carries a type, and its other
argument has none. -/
def looseObject : Declaration where
  name := "org.example.Loose"
  kind := .objectKind
  annotations :=
    [{ name := "org.example.Function"
       arguments := ⟨[("erstesArgument", .text "greet")], by decide⟩ }]
  properties :=
    [.bare "m" { name := some "Map"
                 arguments := [{ variance := .star, type := some (.named "Int") },
                   { variance := .covariant }] }]

/-- `looseObject` is not identical to what is built from its parts, and in memory both leave the
same file. -/
theorem memory_looseObject_rebuilt :
    let c : Configuration := { onGap := .keepPartial }
    let corpus := [plainObject, looseObject]
    let other := [plainObject, looseObject.rebuilt]
    looseObject.rebuilt ≠ looseObject ∧ List.Forall₂ Declaration.RebuildsTo corpus other ∧
      writtenFiles MemoryStore.sink c other {} {}
        = [{ package := "org.example", fileName := "GeneratedFunctions", closed := true
             content := "package org.example\nfun servus() \x7b\n"
               ++ "    println(\"Hallo aus Funktion -> servus\")\n\x7d\n"
               ++ "fun greet(\n    m: Map<*, out >,\n) \x7b\n"
               ++ "    println(\"Hallo aus Funktion -> greet\")\n\x7d\n" }] := by
  intro c corpus other
  obtain ⟨hidentical, hpass⟩ := runPass_rebuilt
  have hrebuilds : List.Forall₂ Declaration.RebuildsTo corpus other :=
    .cons (.inl rfl) (.cons (.inr rfl) .nil)
  obtain ⟨-, -, -, htrace⟩ := hpass MemoryStore.sink c {} {} hrebuilds
  refine ⟨?_, hrebuilds, ?_⟩
  · rw [ne_eq, hidentical]
    intro hplain
    have hstar := hplain _ (List.mem_singleton.mpr rfl) _ (.here (List.mem_cons_self ..))
    exact absurd (hstar.mpr rfl) (by simp)
  · refine (congrArg filesOf htrace.symm).trans ?_
    show writtenFiles MemoryStore.sink c corpus {} {} = _
    rw [MemoryStore.sink_neverFails.writtenFiles_eq]
    decide +kernel

end Stubsmith
