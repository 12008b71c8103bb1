/-!
# Drafts of source text

A draft is the text written so far together with the depth at which new lines are indented. It only
grows at its end.
-/

namespace Stubsmith

/-- A text under construction. -/
structure Draft where
  depth : Nat := 0
  text : String := ""
  deriving DecidableEq, Repr

namespace Draft

/-- One step of indentation. -/
def indentUnit : List Char :=
  [' ', ' ', ' ', ' ']

/-- The blanks at the front of a line at the depth. -/
def indentation (depth : Nat) : String :=
  String.ofList (List.replicate depth indentUnit).flatten

/-- Appends text as it stands. -/
def raw (d : Draft) (s : String) : Draft :=
  { d with text := d.text ++ s }

/-- Appends the indentation and then text, without ending the line. -/
def beginLine (d : Draft) (s : String) : Draft :=
  d.raw (indentation d.depth ++ s)

/-- Appends text and ends the line. -/
def finishLine (d : Draft) (s : String) : Draft :=
  d.raw (s ++ "\n")

/-- Appends an indented line. -/
def line (d : Draft) (s : String) : Draft :=
  d.raw (indentation d.depth ++ s ++ "\n")

/-- Appends a line feed alone. -/
def blank (d : Draft) : Draft :=
  d.raw "\n"

/-- Indents the lines that follow by one step more. -/
def indent (d : Draft) : Draft :=
  { d with depth := d.depth + 1 }

/-- Indents the lines that follow by one step less; at the margin nothing changes. -/
def dedent (d : Draft) : Draft :=
  { d with depth := d.depth - 1 }

/-- Whether nothing has been written. -/
def isEmpty (d : Draft) : Bool :=
  d.text.isEmpty

end Draft

end Stubsmith
