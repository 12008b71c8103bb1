import Stubsmith.Draft

/-!
# Writing as appending

Every operation on a draft appends one text that depends on the draft's depth alone. So a draft can
be carried through a sequence of operations as `d.raw text`, with the text written so far on one
side.
-/

namespace Stubsmith.Draft

@[simp] theorem depth_raw (d : Draft) (s : String) : (d.raw s).depth = d.depth := rfl

@[simp] theorem depth_indent (d : Draft) : d.indent.depth = d.depth + 1 := rfl

/-- Appending nothing changes nothing. -/
@[simp] theorem raw_empty (d : Draft) : d.raw "" = d := by
  simp [raw]

/-- Two texts appended one after the other are appended as one. -/
@[simp] theorem raw_raw (d : Draft) (s t : String) : (d.raw s).raw t = d.raw (s ++ t) := by
  simp [raw, String.append_assoc]

/-- A draft tells what was appended to it. -/
@[simp] theorem raw_inj {d : Draft} {s t : String} : d.raw s = d.raw t ↔ s = t := by
  simp [raw]

theorem beginLine_eq_raw (d : Draft) (s : String) :
    d.beginLine s = d.raw (indentation d.depth ++ s) := rfl

theorem finishLine_eq_raw (d : Draft) (s : String) : d.finishLine s = d.raw (s ++ "\n") := rfl

theorem line_eq_raw (d : Draft) (s : String) :
    d.line s = d.raw (indentation d.depth ++ s ++ "\n") := rfl

/-- The depth can be changed before the text is appended as well as after. -/
theorem indent_raw (d : Draft) (s : String) : (d.raw s).indent = d.indent.raw s := rfl

theorem dedent_raw (d : Draft) (s : String) : (d.raw s).dedent = d.dedent.raw s := rfl

@[simp] theorem dedent_indent (d : Draft) : d.indent.dedent = d := by
  simp [indent, dedent]

/-- One step of depth is four blanks. -/
theorem indentation_succ (depth : Nat) : indentation (depth + 1) = indentation depth ++ "    " := by
  have hunit : String.ofList indentUnit = "    " := rfl
  have hlist : (List.replicate (depth + 1) indentUnit).flatten
      = (List.replicate depth indentUnit).flatten ++ indentUnit := by
    rw [List.replicate_succ', List.flatten_append]
    simp
  rw [indentation, indentation, hlist, String.ofList_append, hunit]

/-- The blanks of a depth are four for every step. -/
theorem indentation_eq (depth : Nat) :
    indentation depth = String.ofList (List.replicate (4 * depth) ' ') := by
  induction depth with
  | zero => rfl
  | succ depth ih =>
      have hunit : "    " = String.ofList (List.replicate 4 ' ') := rfl
      rw [indentation_succ, ih, hunit, ← String.ofList_append, List.replicate_append_replicate]
      rfl

/-- There is nothing but blanks before a line. -/
theorem eq_of_mem_indentation {depth : Nat} {x : Char} (h : x ∈ (indentation depth).toList) :
    x = ' ' := by
  rw [indentation_eq, String.toList_ofList] at h
  exact List.eq_of_mem_replicate h

end Stubsmith.Draft
