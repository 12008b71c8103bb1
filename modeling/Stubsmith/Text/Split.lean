/-!
# Cutting a text into pieces

Two ways to cut: at every occurrence of a separator (`split`, used for qualified names and paths)
and into lines (`lines`, used when two texts are compared).
-/

namespace Stubsmith.Text

/-- The pieces of `s` between the occurrences of `separator`, empty pieces included. There is always
at least one piece, and joining them with the separator gives `s` back. -/
def split (separator : Char) (s : String) : List String :=
  (s.toList.splitOn separator).map String.ofList

/-- What stands after the last occurrence of `separator`; all of `s` if there is none. -/
def afterLast (separator : Char) (s : String) : String :=
  ((split separator s).getLast?).getD s

/-- A line ended by a line feed gives up one carriage return before it. -/
def dropReturn (line : List Char) : List Char :=
  match line.getLast? with
  | some '\r' => line.dropLast
  | _ => line

/-- The lines among the pieces between line feeds. A text that ends in a line feed has no line after
it, and a last line without a line feed is taken as it stands. -/
def linesOfPieces : List (List Char) → List (List Char)
  | [] => []
  | [last] => if last.isEmpty then [] else [last]
  | piece :: rest => dropReturn piece :: linesOfPieces rest

/-- The lines of a text: cut at line feeds, with one carriage return before a line feed removed. -/
def lines (s : String) : List String :=
  (linesOfPieces (s.toList.splitOn '\n')).map String.ofList

end Stubsmith.Text
