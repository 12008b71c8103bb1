import Stubsmith.Proofs.Kotlin.Function
import Stubsmith.Proofs.Kotlin.TypeCharacters

/-!
# Functions at any depth

Several functions can be written into one draft, at whatever depth it stands. What is written for
one of them does not depend on the text that is there already, and the depth is the same again
behind it unless a gap ended the writing (`Draft.writeFunction_local`). A complete function of names
without line feeds is at any depth the function at the margin, with the blanks of the depth before
each of its lines.
-/

namespace Stubsmith

open Kotlin

namespace Kotlin

/-! ## The lines of a function -/

/-- The line of a parameter whose type has a name. -/
def parameterContent (p : Property) : String :=
  "    " ++ p.name ++ ": " ++ p.type.spelling ++ ","

/-- The lines of a function whose parameters all have types with names. -/
def functionLines (name : String) (parameters : List Property) : List String :=
  (if parameters.isEmpty then ["fun " ++ name ++ "() \x7b"]
    else ("fun " ++ name ++ "(") :: (parameters.map parameterContent ++ [") \x7b"]))
  ++ ["    println(\"Hallo aus Funktion -> " ++ name ++ "\")", "\x7d"]

/-- A text that consists of these lines, with `margin` before each of them. -/
def ofLines (margin : String) (lines : List String) : String :=
  String.join (lines.map fun line => margin ++ line ++ "\n")

theorem ofLines_cons (margin line : String) (rest : List String) :
    ofLines margin (line :: rest) = margin ++ line ++ "\n" ++ ofLines margin rest := by
  rw [ofLines, List.map_cons, String.join_cons, ofLines]

theorem ofLines_append (margin : String) (lines rest : List String) :
    ofLines margin (lines ++ rest) = ofLines margin lines ++ ofLines margin rest := by
  rw [ofLines, List.map_append, String.join_append, ofLines, ofLines]

/-- The parameters of a function are lines if their types have names. -/
theorem join_parameterText (margin : String) {parameters : List Property}
    (h : ∀ p ∈ parameters, p.type.isResolved = true) :
    String.join (parameters.map (parameterText (margin ++ "    ")))
      = ofLines margin (parameters.map parameterContent) := by
  rw [ofLines, List.map_map]
  congr 1
  apply List.map_congr_left
  intro p hp
  simp [parameterText, parameterContent, h p hp, String.append_assoc]

/-- The text of a function consists of its lines. -/
theorem functionText_eq_ofLines (margin name : String) {parameters : List Property}
    (h : ∀ p ∈ parameters, p.type.isResolved = true) :
    functionText margin name parameters = ofLines margin (functionLines name parameters) := by
  rw [functionText, functionLines, join_parameterText margin h, ofLines_append]
  cases parameters with
  | nil => simp [ofLines, String.append_assoc]
  | cons p rest =>
      simp only [List.isEmpty_cons, Bool.false_eq_true, if_false, ofLines_cons, ofLines_append]
      simp [ofLines, String.append_assoc]

/-- The names of a function, of its parameters and in their types have no line feed. -/
structure IsUnbroken (name : String) (parameters : List Property) : Prop where
  name : '\n' ∉ name.toList
  parameter : ∀ p ∈ parameters, '\n' ∉ p.name.toList
  type : ∀ p ∈ parameters, ∀ n ∈ p.type.names, '\n' ∉ n.toList

/-- No line of a function is broken if no name is. -/
theorem IsUnbroken.not_mem_line {name : String} {parameters : List Property}
    (h : IsUnbroken name parameters) :
    ∀ line ∈ functionLines name parameters, '\n' ∉ line.toList := by
  have hname := h.name
  have hparameter : ∀ line ∈ parameters.map parameterContent, '\n' ∉ line.toList := by
    intro line hline
    obtain ⟨p, hp, rfl⟩ := List.mem_map.mp hline
    have hspelling : '\n' ∉ p.type.spelling.toList :=
      TypeRef.not_mem_spelling (h.type p hp) (by decide)
    simp [parameterContent, h.parameter p hp, hspelling]
  intro line hline
  rw [functionLines, List.mem_append] at hline
  rcases hline with hline | hline
  · split at hline
    · rw [List.mem_singleton.mp hline]
      simp [hname]
    · rw [List.mem_cons, List.mem_append, List.mem_singleton] at hline
      rcases hline with rfl | hline | rfl
      · simp [hname]
      · exact hparameter line hline
      · decide
  · rw [List.mem_cons, List.mem_singleton] at hline
    rcases hline with rfl | rfl
    · simp [hname]
    · decide

/-- A function without gaps and broken names consists of the same lines behind every margin. -/
theorem IsUnbroken.exists_lines {owner name : String} {parameters : List Property}
    (h : IsUnbroken name parameters) (hgaps : gapFaults owner parameters = []) :
    ∃ lines : List String, (∀ line ∈ lines, '\n' ∉ line.toList) ∧
      ∀ margin, functionText margin name parameters
        = String.join (lines.map fun line => margin ++ line ++ "\n") := by
  have hresolved : ∀ p ∈ parameters, p.type.isResolved = true := fun p hp =>
    TypeRef.isResolved_of_gaps_eq_nil ((gapFaults_eq_nil_iff owner parameters).mp hgaps p hp)
  exact ⟨functionLines name parameters, h.not_mem_line,
    fun margin => functionText_eq_ofLines margin name hresolved⟩

end Kotlin

/-! ## Writing into a draft that holds other text -/

/-- The text of a draft does not matter for what is written behind it. -/
theorem Draft.writeFunction_eq_alone (c : Configuration) (decl : Declaration) (d : Draft) :
    let written := d.writeFunction c decl
    let alone := ({ depth := d.depth } : Draft).writeFunction c decl
    written.1.text = d.text ++ alone.1.text ∧ written.1.depth = alone.1.depth ∧
      written.2 = alone.2 := by
  cases decl.ending c with
  | rejected fault named write_eq => simp [write_eq]
  | written name named complete write_eq => simp [write_eq, raw]
  | stopped name named policy_eq fault others faults_eq start write_eq =>
      simp [write_eq, raw, indent]

section

variable {c : Configuration} {decl : Declaration} {d : Draft}

/-- A fault either comes before anything is written, or it is a gap that ends the writing inside the
list of parameters. -/
theorem Draft.of_writeFunction_eq_error {fault : RenderFault}
    (h : (d.writeFunction c decl).2 = .error fault) :
    (fault.phase = "validate" ∧ (d.writeFunction c decl).1 = d) ∨
      (fault.phase = "render" ∧ c.onGap = .discard ∧
        (d.writeFunction c decl).1.depth = d.depth + 1) := by
  cases decl.ending c with
  | rejected found named write_eq =>
      rw [write_eq] at h ⊢
      cases h
      exact Or.inl ⟨phase_of_requestedName_eq_error named, rfl⟩
  | written name named complete write_eq =>
      rw [write_eq] at h
      cases h
  | stopped name named policy_eq found others faults_eq start write_eq =>
      rw [write_eq] at h ⊢
      cases h
      have hfault : fault ∈ gapFaults decl.name decl.parameters := by simp [faults_eq]
      exact Or.inr ⟨phase_of_mem_gapFaults hfault, policy_eq, rfl⟩

/-- A function that is written is there in full, and the depth is the same behind it. -/
theorem Draft.of_writeFunction_eq_ok {f : WrittenFunction}
    (h : (d.writeFunction c decl).2 = .ok f) :
    (d.writeFunction c decl).1
      = d.raw (functionText (indentation d.depth) f.name decl.parameters) := by
  cases decl.ending c with
  | rejected fault named write_eq =>
      rw [write_eq] at h
      cases h
  | written name named complete write_eq =>
      rw [write_eq] at h ⊢
      cases h
      rfl
  | stopped name named policy_eq fault others faults_eq start write_eq =>
      rw [write_eq] at h
      cases h

end

/-- **What is written for a declaration has its place, and no more.** The outcome, the text that is
appended and the depth behind it are those of an empty draft of the same depth. A declaration that
is turned away leaves the draft as it was. A function that is written leaves the depth as it was,
and one that is given up under `discard` leaves it one step deeper. If no gap was left out of the
function and its names hold no line feed, it is written line by line as at the margin, with four
blanks for every step of depth before each line. -/
theorem Draft.writeFunction_local (c : Configuration) (decl : Declaration) (d : Draft) :
    let written := d.writeFunction c decl
    let alone := ({ depth := d.depth } : Draft).writeFunction c decl
    let atMargin := ({} : Draft).writeFunction c decl
    (written.1.text = d.text ++ alone.1.text ∧ written.1.depth = alone.1.depth ∧
      written.2 = alone.2) ∧
    (∀ fault, written.2 = .error fault →
      (fault.phase = "validate" ∧ written.1 = d) ∨
      (fault.phase = "render" ∧ c.onGap = .discard ∧ written.1.depth = d.depth + 1)) ∧
    (∀ f, written.2 = .ok f → written.1.depth = d.depth ∧
      (f.isClean = true → IsUnbroken f.name decl.parameters →
        ∃ lines : List String, (∀ line ∈ lines, '\n' ∉ line.toList) ∧
          atMargin.1.text = String.join (lines.map fun line => line ++ "\n") ∧
          alone.1.text = String.join (lines.map fun line =>
            String.ofList (List.replicate (4 * d.depth) ' ') ++ line ++ "\n"))) := by
  intro written alone atMargin
  refine ⟨d.writeFunction_eq_alone c decl, fun fault h => of_writeFunction_eq_error h, ?_⟩
  intro f h
  have hdepth : written.1.depth = d.depth := by
    rw [show written.1 = _ from of_writeFunction_eq_ok h, depth_raw]
  refine ⟨hdepth, fun hclean hnames => ?_⟩
  obtain ⟨hname, hnil⟩ := complete_of_isClean h hclean
  obtain ⟨lines, hlines, htext⟩ := hnames.exists_lines hnil
  have halone : alone = _ := writeFunction_of_eq_nil { depth := d.depth } hname hnil
  have hmargin : atMargin = _ := writeFunction_of_eq_nil {} hname hnil
  refine ⟨lines, hlines, ?_, ?_⟩
  · simp [hmargin, raw, htext, indentation_eq]
  · simp [halone, raw, htext, indentation_eq]

/-- A marked object with two complete parameters and a property that is not valid. -/
def cacheObject : Declaration :=
  let marker : Annotation :=
    .withArgument { name := "org.example.Function" } "erstesArgument" (.text "cache")
  let list : TypeRef := ((TypeRef.named "List").withArgument .star).asNullable
  { name := "org.example.Cache", kind := .objectKind, annotations := [marker]
    properties := [.bare "size" (.named "Int"), (Property.bare "x" .unresolved).withMark false,
      .bare "items" list] }

/-- Inside an object that is already open, `cacheObject` is written two steps deep, as a class it is
turned away, and without the type of a parameter it is given up three steps deep. -/
theorem cacheObject_written_inside :
    let d : Draft := { depth := 2, text := "object Outer \x7b\n" }
    let asClass := { cacheObject with kind := .classKind }
    let untyped := { cacheObject with properties := [.bare "size" .unresolved] }
    (d.writeFunction {} asClass).1 = d ∧ (d.writeFunction {} untyped).1.depth = 3 ∧
      (d.writeFunction {} cacheObject).2 = .ok { name := "cache" } ∧
      IsUnbroken "cache" cacheObject.parameters ∧ (d.writeFunction {} cacheObject).1.depth = 2 ∧
      ∃ lines : List String, (∀ line ∈ lines, '\n' ∉ line.toList) ∧
        (({} : Draft).writeFunction {} cacheObject).1.text
          = String.join (lines.map fun line => line ++ "\n") ∧
        (d.writeFunction {} cacheObject).1.text = "object Outer \x7b\n"
          ++ String.join (lines.map fun line => "        " ++ line ++ "\n") := by
  intro d asClass untyped
  have hclass : (d.writeFunction {} asClass).2
      = .error (.wrongKind "org.example.Cache" .classKind "Function") := rfl
  have huntyped : (d.writeFunction {} untyped).2
      = .error (.unresolvable "org.example.Cache.size" .property) := rfl
  have hcache : (d.writeFunction {} cacheObject).2 = .ok { name := "cache" } := rfl
  have hnames : IsUnbroken "cache" cacheObject.parameters := ⟨by decide, by decide, by decide⟩
  obtain ⟨_, hrejected, _⟩ := Draft.writeFunction_local {} asClass d
  obtain ⟨_, hstopped, _⟩ := Draft.writeFunction_local {} untyped d
  obtain ⟨⟨htext, _, _⟩, _, hwritten⟩ := Draft.writeFunction_local {} cacheObject d
  obtain ⟨hdepth, hclean⟩ := hwritten _ hcache
  obtain ⟨lines, hlines, hmargin, halone⟩ := hclean rfl hnames
  refine ⟨?_, ?_, hcache, hnames, hdepth, lines, hlines, hmargin, ?_⟩
  · rcases hrejected _ hclass with ⟨_, hsame⟩ | ⟨hphase, _⟩
    · exact hsame
    · exact absurd hphase (by decide)
  · rcases hstopped _ huntyped with ⟨hphase, _⟩ | ⟨_, _, hdeeper⟩
    · exact absurd hphase (by decide)
    · exact hdeeper
  · rw [htext, halone]
    rfl

end Stubsmith
