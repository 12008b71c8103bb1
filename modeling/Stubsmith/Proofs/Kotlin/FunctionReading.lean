import Stubsmith.Proofs.Kotlin.Function
import Stubsmith.Proofs.Kotlin.Name
import Stubsmith.Proofs.Kotlin.TypeReading

/-!
# Reading functions back from their text

The blocks of functions stand one behind the other without anything between them. If names are plain
identifiers and types are legible, the blocks can still be told apart, and each of them shows the
name of its function and the names and types of its parameters (`signatures_eq_of_blocks_eq`).
-/

namespace Stubsmith

open Kotlin

namespace Kotlin

/-- An identifier ends where a bracket or colon stands. -/
theorem IsIdentifier.eq_of_append_cons_eq {name name' : String} {sign : Char} {r s : List Char}
    (h : IsIdentifier name) (h' : IsIdentifier name') (hsign : sign ∈ ['(', ':'])
    (heq : name.toList ++ sign :: r = name'.toList ++ sign :: s) : name = name' ∧ r = s := by
  have hpart : ¬ Kotlin.isIdentifierPart sign = true := by
    simp only [List.mem_cons, List.not_mem_nil, or_false] at hsign
    rcases hsign with rfl | rfl <;> decide
  obtain ⟨hname, _, hrs⟩ := Stubsmith.eq_of_append_cons_eq h.isIdentifierPart h'.isIdentifierPart
    hpart hpart heq
  exact ⟨String.toList_inj.mp hname, hrs⟩

/-! ## Parameters -/

/-- The parameter can be told from its line. -/
def IsLegibleParameter (p : Property) : Prop :=
  IsIdentifier p.name ∧ p.type.IsLegible

/-- What the line of a parameter shows: its name, and its type but for what stars carry. -/
def parameterSignature (p : Property) : String × TypeRef :=
  (p.name, p.type.starless)

/-- A legible parameter has a line that ends. -/
theorem parameterLine_append {p : Property} (hp : IsLegibleParameter p) (r : List Char) :
    (parameterLine p).toList ++ r = ' ' :: ' ' :: ' ' :: ' ' ::
      (p.name.toList ++ ':' :: ' ' :: (p.type.spelling.toList ++ ',' :: '\n' :: r)) := by
  have hresolved : p.type.isResolved = true := hp.2.isResolved
  simp [parameterLine, hresolved]

/-- The lines of parameters can be read back from the text before the closing bracket, which is not
indented. -/
theorem eq_of_parameterLines_append_eq {ps qs : List Property}
    (hps : ∀ p ∈ ps, IsLegibleParameter p) (hqs : ∀ q ∈ qs, IsLegibleParameter q)
    {r s : List Char}
    (h : (String.join (ps.map parameterLine)).toList ++ ')' :: r
      = (String.join (qs.map parameterLine)).toList ++ ')' :: s) :
    ps.map parameterSignature = qs.map parameterSignature ∧ r = s := by
  induction ps generalizing qs with
  | nil =>
      cases qs with
      | nil =>
          injection h with _ hrs
          exact ⟨rfl, hrs⟩
      | cons q qs =>
          rw [List.map_cons, String.join_cons, String.toList_append, List.append_assoc,
            parameterLine_append (hqs q List.mem_cons_self)] at h
          injection h with hsign _
          exact absurd hsign (by decide)
  | cons p ps ih =>
      rw [List.map_cons, String.join_cons, String.toList_append, List.append_assoc,
        parameterLine_append (hps p List.mem_cons_self)] at h
      cases qs with
      | nil =>
          -- a line begins with a blank, the closing bracket stands at the margin
          injection h with hsign _
          exact absurd hsign (by decide)
      | cons q qs =>
          rw [List.map_cons, String.join_cons, String.toList_append, List.append_assoc,
            parameterLine_append (hqs q List.mem_cons_self)] at h
          have hp := hps p List.mem_cons_self
          have hq := hqs q List.mem_cons_self
          simp only [List.cons.injEq, true_and] at h
          obtain ⟨hname, h⟩ := hp.1.eq_of_append_cons_eq hq.1 (by decide) h
          injection h with _ h
          obtain ⟨htype, h⟩ := TypeRef.eq_of_spelling_append_eq p.type q.type hp.2 hq.2 _ _
            ⟨',', _, rfl, by decide⟩ ⟨',', _, rfl, by decide⟩ h
          injection h with _ h
          injection h with _ h
          obtain ⟨hrest, hrs⟩ := ih (fun p' hp' => hps p' (List.mem_cons_of_mem p hp'))
            (fun q' hq' => hqs q' (List.mem_cons_of_mem q hq')) h
          refine ⟨?_, hrs⟩
          rw [List.map_cons, List.map_cons, hrest, parameterSignature, parameterSignature, hname,
            htype]

/-! ## Functions -/

/-- The function can be told from its block. -/
def IsLegibleFunction (f : String × List Property) : Prop :=
  IsIdentifier f.1 ∧ ∀ p ∈ f.2, IsLegibleParameter p

/-- What the block of a function shows: its name and what the lines of its parameters show. -/
def functionSignature (f : String × List Property) : String × List (String × TypeRef) :=
  (f.1, f.2.map parameterSignature)

/-- The text of a function behind the bracket that closes its parameters. -/
def functionEnd (name : String) : String :=
  " \x7b\n" ++ "    println(\"Hallo aus Funktion -> " ++ name ++ "\")\n\x7d\n"

/-- The text of parameters between the brackets. -/
def betweenBrackets (parameters : List Property) : List Char :=
  if parameters.isEmpty then []
  else '\n' :: (String.join (parameters.map parameterLine)).toList

/-- A block shows the name and then, between brackets, the parameters. -/
theorem functionBlock_append (name : String) (parameters : List Property) (r : List Char) :
    (functionBlock name parameters).toList ++ r = 'f' :: 'u' :: 'n' :: ' ' ::
      (name.toList ++ '(' :: (betweenBrackets parameters
        ++ ')' :: ((functionEnd name).toList ++ r))) := by
  -- only the short literals are spelled out; `functionEnd` stays closed
  have hfun : ∀ l, "fun ".toList ++ l = 'f' :: 'u' :: 'n' :: ' ' :: l := by simp
  have hempty : ∀ l, "() \x7b\n".toList ++ l = '(' :: ')' :: (" \x7b\n".toList ++ l) := by simp
  have hopen : ∀ l, "(\n".toList ++ l = '(' :: '\n' :: l := by simp
  have hclose : ∀ l, ") \x7b\n".toList ++ l = ')' :: (" \x7b\n".toList ++ l) := by simp
  cases parameters with
  | nil =>
      simp only [functionBlock, betweenBrackets, functionEnd, List.isEmpty_nil, if_true,
        String.toList_append, List.append_assoc, -String.reduceToList]
      rw [hfun, hempty, List.nil_append]
  | cons p rest =>
      simp only [functionBlock, betweenBrackets, functionEnd, List.isEmpty_cons,
        Bool.false_eq_true, if_false, String.toList_append, List.append_assoc,
        -String.reduceToList]
      rw [hfun, hopen, hclose, List.cons_append]

/-- The parameters can be read back from what stands between the brackets. -/
theorem eq_of_betweenBrackets_append_eq {ps qs : List Property}
    (hps : ∀ p ∈ ps, IsLegibleParameter p) (hqs : ∀ q ∈ qs, IsLegibleParameter q)
    {r s : List Char} (h : betweenBrackets ps ++ ')' :: r = betweenBrackets qs ++ ')' :: s) :
    ps.map parameterSignature = qs.map parameterSignature ∧ r = s := by
  cases ps with
  | nil =>
      cases qs with
      | nil =>
          injection h with _ hrs
          exact ⟨rfl, hrs⟩
      | cons q qs =>
          injection h with hsign _
          exact absurd hsign (by decide)
  | cons p ps =>
      cases qs with
      | nil =>
          injection h with hsign _
          exact absurd hsign (by decide)
      | cons q qs =>
          injection h with _ hlines
          exact eq_of_parameterLines_append_eq hps hqs hlines

/-- A function can be read back from its block, together with where the block ends. -/
theorem eq_of_functionBlock_append_eq {f g : String × List Property} (hf : IsLegibleFunction f)
    (hg : IsLegibleFunction g) {r s : List Char}
    (h : (functionBlock f.1 f.2).toList ++ r = (functionBlock g.1 g.2).toList ++ s) :
    functionSignature f = functionSignature g ∧ r = s := by
  rw [functionBlock_append, functionBlock_append] at h
  simp only [List.cons.injEq, true_and] at h
  obtain ⟨hname, hbrackets⟩ := hf.1.eq_of_append_cons_eq hg.1 (by decide) h
  obtain ⟨hparameters, hend⟩ := eq_of_betweenBrackets_append_eq hf.2 hg.2 hbrackets
  rw [hname] at hend
  refine ⟨?_, List.append_cancel_left hend⟩
  rw [functionSignature, functionSignature, hname, hparameters]

/-- **Functions can be read back from their blocks**, though nothing stands between these. -/
theorem signatures_eq_of_blocks_eq {fs gs : List (String × List Property)}
    (hfs : ∀ f ∈ fs, IsLegibleFunction f) (hgs : ∀ g ∈ gs, IsLegibleFunction g)
    (h : String.join (fs.map fun f => functionBlock f.1 f.2)
      = String.join (gs.map fun g => functionBlock g.1 g.2)) :
    fs.map functionSignature = gs.map functionSignature := by
  -- no block is empty, so the lists end together
  have hne : ∀ (f : String × List Property) (rest : String),
      (functionBlock f.1 f.2 ++ rest).toList ≠ "".toList := by
    intro f rest
    rw [String.toList_append, functionBlock_append]
    simp
  induction fs generalizing gs with
  | nil =>
      cases gs with
      | nil => rfl
      | cons g gs =>
          rw [List.map_cons, String.join_cons] at h
          exact absurd (congrArg String.toList h.symm) (hne g _)
  | cons f fs ih =>
      rw [List.map_cons, String.join_cons] at h
      cases gs with
      | nil => exact absurd (congrArg String.toList h) (hne f _)
      | cons g gs =>
          rw [List.map_cons, String.join_cons] at h
          have hlist := congrArg String.toList h
          rw [String.toList_append, String.toList_append] at hlist
          obtain ⟨hfg, hrest⟩ := eq_of_functionBlock_append_eq (hfs f List.mem_cons_self)
            (hgs g List.mem_cons_self) hlist
          rw [List.map_cons, List.map_cons, hfg, ih
            (fun f' hf' => hfs f' (List.mem_cons_of_mem f hf'))
            (fun g' hg' => hgs g' (List.mem_cons_of_mem g hg')) (String.toList_inj.mp hrest)]

end Kotlin

end Stubsmith
