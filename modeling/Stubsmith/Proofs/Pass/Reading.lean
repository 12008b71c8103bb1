import Stubsmith.Proofs.Kotlin.FunctionReading
import Stubsmith.Proofs.Pass.Output

/-!
# Reading a generated file

Two passes that write the same text have the same package and the same functions, if both discard
what has gaps and their names keep to the rules of `IsReadable`. What cannot be known from the text
is everything else: the marker, the declarations that failed, the file's name and the types at
stars.
-/

namespace Stubsmith

open Kotlin

/-- The functions that a pass writes, with their parameters, in the order of the file. -/
def writtenFunctions (c : Configuration) (corpus : List Declaration) :
    List (String × List Property) :=
  (selection corpus c.marker).filterMap (·.writtenFunction? c)

/-- What a file shows of its functions: the name of each and the names and types of its parameters,
but for what stars carry. -/
def fileSignatures (c : Configuration) (corpus : List Declaration) :
    List (String × List (String × TypeRef)) :=
  (writtenFunctions c corpus).map functionSignature

/-- The pass leaves a file, without functions that have gaps, whose package is on one line and whose
names can be told from the text around them. -/
structure IsReadable (c : Configuration) (corpus : List Declaration) : Prop where
  discards : c.onGap = .discard
  selected : selection corpus c.marker ≠ []
  package : '\n' ∉ c.package.toList
  functionNames : ∀ f ∈ writtenFunctions c corpus, IsIdentifier f.1
  parameterNames : ∀ f ∈ writtenFunctions c corpus, ∀ p ∈ f.2, IsIdentifier p.name
  typeNames : ∀ f ∈ writtenFunctions c corpus, ∀ p ∈ f.2, ∀ name ∈ p.type.names, IsTypeName name

/-- The functions of a readable file are legible. -/
theorem IsReadable.isLegibleFunction {c : Configuration} {corpus : List Declaration}
    (h : IsReadable c corpus) : ∀ f ∈ writtenFunctions c corpus, IsLegibleFunction f := by
  intro f hf
  obtain ⟨decl, _, hwritten⟩ := List.mem_filterMap.mp hf
  have hgaps := Declaration.gaps_of_writtenFunction?_eq_some h.discards hwritten
  refine ⟨h.functionNames f hf, ?_⟩
  intro p hp
  exact ⟨h.parameterNames f hf p hp,
    TypeRef.isLegible_of_names p.type (hgaps p hp) (h.typeNames f hf p hp)⟩

/-- The file holds the package line and the blocks of the functions that are written. -/
theorem passFiles_eq_of_ne_nil (c : Configuration) (corpus : List Declaration)
    (h : selection corpus c.marker ≠ []) :
    (passFiles c (selection corpus c.marker)).map (·.content)
      = [packageLine c.package
          ++ String.join ((writtenFunctions c corpus).map fun f => functionBlock f.1 f.2)] := by
  rw [passFiles, if_neg (by simpa using h), passTexts, String.join_cons, writtenFunctions,
    List.map_filterMap]
  simp only [← Declaration.writtenText?_eq_map, List.map_cons, List.map_nil]

/-- The package line is the keyword, the package and a line feed. -/
theorem toList_packageLine_append (package rest : String) :
    (packageLine package ++ rest).toList
      = "package ".toList ++ (package.toList ++ '\n' :: rest.toList) := by
  simp [packageLine]

/-- A package without a line feed can be read back from its line. -/
theorem eq_of_packageLine_append_eq {p q : String} (hp : '\n' ∉ p.toList) (hq : '\n' ∉ q.toList)
    {r s : String} (h : packageLine p ++ r = packageLine q ++ s) : p = q ∧ r = s := by
  have hlist := congrArg String.toList h
  rw [toList_packageLine_append, toList_packageLine_append] at hlist
  have hbreak : ∀ {name : String}, '\n' ∉ name.toList → ∀ x ∈ name.toList, x ≠ '\n' :=
    fun hname x hx hxbreak => hname (hxbreak ▸ hx)
  obtain ⟨hpq, _, hrs⟩ := eq_of_append_cons_eq (hbreak hp) (hbreak hq) (not_not_intro rfl)
    (not_not_intro rfl) (List.append_cancel_left hlist)
  exact ⟨String.toList_inj.mp hpq, String.toList_inj.mp hrs⟩

/-- **A generated file can be read in one way only.** If two passes over readable corpora leave
files with the same text on sinks that never fail, they have the same package and the same
functions. -/
theorem package_signatures_eq_of_content_eq {σ τ : Type} {S : Sink σ} {T : Sink τ}
    (hS : S.NeverFails) (hT : T.NeverFails) {c d : Configuration} {corpus other : List Declaration}
    (hc : IsReadable c corpus) (hd : IsReadable d other) (s : σ) (t : τ) (log log' : Log)
    (h : (writtenFiles S c corpus s log).map (·.content)
      = (writtenFiles T d other t log').map (·.content)) :
    c.package = d.package ∧ fileSignatures c corpus = fileSignatures d other := by
  rw [hS.writtenFiles_eq, hT.writtenFiles_eq, passFiles_eq_of_ne_nil c corpus hc.selected,
    passFiles_eq_of_ne_nil d other hd.selected, List.singleton_inj] at h
  obtain ⟨hpackage, hblocks⟩ := eq_of_packageLine_append_eq hc.package hd.package h
  exact ⟨hpackage, signatures_eq_of_blocks_eq hc.isLegibleFunction hd.isLegibleFunction hblocks⟩

/-- An object whose function has a map as its only parameter, with a star for the keys. -/
def mapObject (marker : String) (key : Option TypeRef) : Declaration where
  name := "org.example.A"
  kind := .objectKind
  annotations := [.withArgument { name := marker } "erstesArgument" (.text "hallo")]
  properties :=
    [.bare "a" { name := some "Map"
                 arguments := [{ variance := .star, type := key },
                   TypeArgument.covariant (TypeRef.named "Int").asNullable] }]

/-- Another marker, another file name, a type at a star and a class that is at fault do not show in
the text of a file. -/
theorem mapObject_signatures_eq :
    let elsewhere : Configuration := { marker := "org.example.Other", fileName := "Elsewhere" }
    fileSignatures {} [mapObject "org.example.Function" (some (TypeRef.named "String"))]
      = fileSignatures elsewhere
          [{ mapObject "org.example.Other" none with kind := .classKind },
            mapObject "org.example.Other" none] := by
  intro elsewhere
  have hreadable : IsReadable {}
      [mapObject "org.example.Function" (some (TypeRef.named "String"))] :=
    ⟨rfl, by decide, by decide, by decide, by decide, by decide⟩
  have helsewhere : IsReadable elsewhere
      [{ mapObject "org.example.Other" none with kind := .classKind },
        mapObject "org.example.Other" none] :=
    ⟨rfl, by decide, by decide, by decide, by decide, by decide⟩
  exact (package_signatures_eq_of_content_eq MemoryStore.sink_neverFails
    MemoryStore.sink_neverFails hreadable helsewhere {} {} {} {} (by decide)).2

end Stubsmith
