import Stubsmith.Proofs.Kotlin.Function
import Stubsmith.Proofs.Kotlin.Name
import Stubsmith.Proofs.Kotlin.TypeCharacters

/-!
# What is known of a clean function

That a function was written without gaps says that its declaration is an object, that the marker
gives a name, and that all types are complete. It says nothing about names, which are written as
they come (`Draft.writeFunction_clean`). If the names are plain, the text is that of one function:
no name ends the list of parameters, the literal that the function prints, or its body. If they are
not, a clean function can be malformed (`quotingObject_clean_not_plain`).
-/

namespace Stubsmith

open Kotlin

namespace Kotlin

/-- The signs that open or close something in a function, and those that a string literal does not
show as they stand. -/
def structuralSigns : List Char :=
  ['(', ')', '\x7b', '\x7d', '"', '\\', '$']

/-- A text on one line that neither opens nor closes anything. -/
def IsInert (s : String) : Prop :=
  ∀ x ∈ s.toList, x ∉ '\n' :: structuralSigns

instance (s : String) : Decidable (IsInert s) :=
  List.decidableBAll (fun x => x ∉ '\n' :: structuralSigns) s.toList

/-- The signs of a text that open or close something, in their order. -/
def signsOf (text : String) : List Char :=
  text.toList.filter (· ∈ structuralSigns)

/-- The function and its parameters are named by identifiers, and the names in the types are inert.
-/
structure HasPlainNames (name : String) (parameters : List Property) : Prop where
  name : IsIdentifier name
  parameter : ∀ p ∈ parameters, IsIdentifier p.name
  type : ∀ p ∈ parameters, ∀ n ∈ p.type.names, IsInert n

/-- What stands between the brackets of a function whose parameters have these names and types. -/
def parameterList (margin : String) (parameters : List (String × String)) : String :=
  if parameters.isEmpty then ""
  else "\n" ++ String.join (parameters.map fun p => margin ++ "    " ++ p.1 ++ ": " ++ p.2 ++ ",\n")
    ++ margin

/-- The text of one function with parameters of these names and types. It has a header, a body of
one line that prints the name, and no other signs that open or close anything than those of the
brackets around the parameters, the braces around the body, and the call with its literal. -/
structure IsSingleFunction (margin name : String) (parameters : List (String × String))
    (text : String) : Prop where
  isIdentifier : IsIdentifier name
  parameter_isIdentifier : ∀ p ∈ parameters, IsIdentifier p.1
  text_eq : text = margin ++ "fun " ++ name ++ "(" ++ parameterList margin parameters ++ ") \x7b\n"
    ++ margin ++ "    println(\"Hallo aus Funktion -> " ++ name ++ "\")\n" ++ margin ++ "\x7d\n"
  signs_eq : signsOf text = ['(', ')', '\x7b', '(', '"', '"', ')', '\x7d']

/-! ## Signs -/

theorem signsOf_append (s t : String) : signsOf (s ++ t) = signsOf s ++ signsOf t := by
  rw [signsOf, String.toList_append, List.filter_append, signsOf, signsOf]

/-- An inert text has no signs. -/
theorem IsInert.signsOf_eq {s : String} (h : IsInert s) : signsOf s = [] := by
  rw [signsOf, List.filter_eq_nil_iff]
  intro x hx hsign
  exact h x hx (List.mem_cons_of_mem _ (of_decide_eq_true hsign))

/-- Texts without signs have none when they are joined. -/
theorem signsOf_join {texts : List String} (h : ∀ s ∈ texts, signsOf s = []) :
    signsOf (String.join texts) = [] := by
  induction texts with
  | nil => rfl
  | cons s rest ih =>
      obtain ⟨hs, hrest⟩ := List.forall_mem_cons.mp h
      rw [String.join_cons, signsOf_append, hs, ih hrest, List.nil_append]

/-- The blanks before a line are inert. -/
theorem isInert_indentation (depth : Nat) : IsInert (Draft.indentation depth) := by
  intro x hx
  rw [Draft.eq_of_mem_indentation hx]
  decide

/-- Nothing in an identifier opens or closes anything. -/
theorem isIdentifierPart_of_mem_structuralSigns {x : Char} (hx : x ∈ '\n' :: structuralSigns) :
    isIdentifierPart x = false := by
  have hall : ('\n' :: structuralSigns).all (!isIdentifierPart ·) = true := by decide
  simpa using List.all_eq_true.mp hall x hx

theorem IsIdentifier.isInert {name : String} (h : IsIdentifier name) : IsInert name := by
  intro x hx hsign
  exact h.not_mem (isIdentifierPart_of_mem_structuralSigns hsign) hx

/-- The signs between the names of a type set off its parts only. -/
theorem isInert_of_mem_typeSigns : ∀ sign ∈ typeSigns, IsInert sign := by
  decide

/-- A type of inert names has an inert text. -/
theorem isInert_spelling {t : TypeRef} (h : ∀ n ∈ t.names, IsInert n) : IsInert t.spelling := by
  intro x hx hsign
  exact TypeRef.not_mem_spelling (fun n hn hxn => h n hn x hxn hsign)
    (fun sign hs hxs => isInert_of_mem_typeSigns sign hs x hxs hsign) hx

/-- The list of parameters has no signs if their names and types are inert. -/
theorem signsOf_parameterList {margin : String} (hmargin : signsOf margin = [])
    {parameters : List (String × String)} (h : ∀ p ∈ parameters, IsInert p.1 ∧ IsInert p.2) :
    signsOf (parameterList margin parameters) = [] := by
  have hlines : ∀ s ∈ parameters.map fun p => margin ++ "    " ++ p.1 ++ ": " ++ p.2 ++ ",\n",
      signsOf s = [] := by
    intro s hs
    obtain ⟨p, hp, rfl⟩ := List.mem_map.mp hs
    simp only [signsOf_append, hmargin, (h p hp).1.signsOf_eq, (h p hp).2.signsOf_eq,
      List.append_nil]
    decide
  rw [parameterList]
  split
  · rfl
  · rw [signsOf_append, signsOf_append, hmargin, signsOf_join hlines]
    decide

/-! ## Functions of plain names -/

/-- A function is its name, the list of its parameters between brackets, and a body that shows the
name. -/
theorem functionText_eq_parameterList (margin name : String) {parameters : List Property}
    (h : ∀ p ∈ parameters, p.type.isResolved = true) :
    functionText margin name parameters
      = margin ++ "fun " ++ name ++ "("
        ++ parameterList margin (parameters.map fun p => (p.name, p.type.spelling)) ++ ") \x7b\n"
        ++ margin ++ "    println(\"Hallo aus Funktion -> " ++ name ++ "\")\n" ++ margin
        ++ "\x7d\n" := by
  -- the first line feed belongs to the list
  have hopen : "(\n" = "(" ++ "\n" := rfl
  have hlines : parameters.map (parameterText (margin ++ "    "))
      = (parameters.map fun p => (p.name, p.type.spelling)).map fun p =>
          margin ++ "    " ++ p.1 ++ ": " ++ p.2 ++ ",\n" := by
    rw [List.map_map]
    apply List.map_congr_left
    intro p hp
    simp [parameterText, h p hp]
  rw [functionText, hlines, hopen]
  cases parameters with
  | nil => simp [parameterList, String.append_assoc]
  | cons p rest =>
      simp only [parameterList, List.map_cons, List.isEmpty_cons, Bool.false_eq_true, if_false,
        String.append_assoc]

/-- **Plain names make one function** of a complete declaration. -/
theorem HasPlainNames.isSingleFunction {name : String} {parameters : List Property}
    (h : HasPlainNames name parameters) (hresolved : ∀ p ∈ parameters, p.type.isResolved = true)
    (depth : Nat) :
    IsSingleFunction (Draft.indentation depth) name
      (parameters.map fun p => (p.name, p.type.spelling))
      (functionText (Draft.indentation depth) name parameters) where
  isIdentifier := h.name
  parameter_isIdentifier := by
    intro q hq
    obtain ⟨p, hp, rfl⟩ := List.mem_map.mp hq
    exact h.parameter p hp
  text_eq := functionText_eq_parameterList _ name hresolved
  signs_eq := by
    have hmargin := (isInert_indentation depth).signsOf_eq
    have hinert : ∀ q ∈ parameters.map fun p => (p.name, p.type.spelling),
        IsInert q.1 ∧ IsInert q.2 := by
      intro q hq
      obtain ⟨p, hp, rfl⟩ := List.mem_map.mp hq
      exact ⟨(h.parameter p hp).isInert, isInert_spelling (h.type p hp)⟩
    rw [functionText_eq_parameterList _ name hresolved]
    simp only [signsOf_append, hmargin, h.name.isInert.signsOf_eq,
      signsOf_parameterList hmargin hinert]
    decide

end Kotlin

/-! ## Clean functions -/

/-- **What a clean function tells.** A function is written without gaps exactly if the declaration
is an object, its marker gives a name, and the types of its parameters are complete; what the names
are does not matter for it. The function has the name that the marker gives. If this name and those
of the parameters are plain, what is written is the text of one function. -/
theorem Draft.writeFunction_clean (c : Configuration) (decl : Declaration) (d : Draft) :
    let written := d.writeFunction c decl
    ((∃ f, written.2 = .ok f ∧ f.isClean = true) ↔
      decl.kind = .objectKind ∧ (∃ name, decl.givenName? c = some name) ∧
        ∀ p ∈ decl.parameters, p.type.gaps .property = []) ∧
    (∀ f, written.2 = .ok f → f.isClean = true → decl.givenName? c = some f.name ∧
      (HasPlainNames f.name decl.parameters → ∃ text, written.1 = d.raw text ∧
        IsSingleFunction (indentation d.depth) f.name
          (decl.parameters.map fun p => (p.name, p.type.spelling)) text)) := by
  intro written
  refine ⟨⟨?_, ?_⟩, ?_⟩
  · rintro ⟨f, hok, hclean⟩
    obtain ⟨hname, hnil⟩ := complete_of_isClean hok hclean
    obtain ⟨hkind, hgiven⟩ := (requestedName_eq_ok_iff c decl f.name).mp hname
    exact ⟨hkind, ⟨f.name, hgiven⟩, (gapFaults_eq_nil_iff _ _).mp hnil⟩
  · rintro ⟨hkind, ⟨name, hgiven⟩, hgaps⟩
    have hname := (requestedName_eq_ok_iff c decl name).mpr ⟨hkind, hgiven⟩
    have hnil := (gapFaults_eq_nil_iff decl.name decl.parameters).mpr hgaps
    exact ⟨{ name }, congrArg Prod.snd (d.writeFunction_of_eq_nil hname hnil), rfl⟩
  · intro f hok hclean
    obtain ⟨hname, hnil⟩ := complete_of_isClean hok hclean
    refine ⟨((requestedName_eq_ok_iff c decl f.name).mp hname).2, fun hplain => ?_⟩
    have hresolved : ∀ p ∈ decl.parameters, p.type.isResolved = true := fun p hp =>
      TypeRef.isResolved_of_gaps_eq_nil ((gapFaults_eq_nil_iff _ _).mp hnil p hp)
    exact ⟨_, congrArg Prod.fst (d.writeFunction_of_eq_nil hname hnil),
      hplain.isSingleFunction hresolved d.depth⟩

/-- A marked object with one parameter, whose function is given a name. -/
def namedObject (function parameter : String) : Declaration :=
  let marker : Annotation :=
    .withArgument { name := "org.example.Function" } "erstesArgument" (.text function)
  { name := "org.example.Named", kind := .objectKind, annotations := [marker]
    properties := [.bare parameter (.named "kotlin.Int")] }

/-- With plain names an object becomes one function. -/
theorem namedObject_isSingleFunction :
    let written := ({} : Draft).writeFunction {} (namedObject "größe" "x")
    written.2 = .ok { name := "größe" } ∧
      IsSingleFunction "" "größe" [("x", "kotlin.Int")] written.1.text ∧
      written.1.text = "fun größe(\n    x: kotlin.Int,\n) \x7b\n"
        ++ "    println(\"Hallo aus Funktion -> größe\")\n\x7d\n" := by
  intro written
  have hok : written.2 = .ok { name := "größe" } := rfl
  have hplain : HasPlainNames "größe" (namedObject "größe" "x").parameters :=
    ⟨by decide, by decide, by decide⟩
  obtain ⟨_, hclean⟩ := Draft.writeFunction_clean {} (namedObject "größe" "x") {}
  obtain ⟨text, htext, hsingle⟩ := (hclean _ hok rfl).2 hplain
  have heq : written.1.text = text := by
    rw [show written.1 = _ from htext]
    simp [Draft.raw]
  exact ⟨hok, heq ▸ hsingle, by decide⟩

/-- **A clean function can be malformed.** A name with quotation marks ends the literal early, and a
hard keyword names a parameter; neither is noticed. -/
theorem quotingObject_clean_not_plain :
    let decl := namedObject "say \"hi\"" "in"
    let written := ({} : Draft).writeFunction {} decl
    written.2 = .ok { name := "say \"hi\"" } ∧
      ({ name := "say \"hi\"" } : WrittenFunction).isClean = true ∧
      ¬ IsIdentifier "say \"hi\"" ∧ (∃ p ∈ decl.parameters, ¬ IsIdentifier p.name) ∧
      written.1.text = "fun say \"hi\"(\n    in: kotlin.Int,\n) \x7b\n"
        ++ "    println(\"Hallo aus Funktion -> say \"hi\"\")\n\x7d\n" ∧
      ∀ margin name parameters, ¬ IsSingleFunction margin name parameters written.1.text := by
  refine ⟨rfl, rfl, by decide, ⟨_, List.mem_singleton.mpr rfl, by decide⟩, by decide, ?_⟩
  intro margin name parameters h
  exact absurd h.signs_eq (by decide)

end Stubsmith
