import Stubsmith.Text.Split

/-!
# Comparing two texts line by line

`mismatch?` accepts equal texts and otherwise lists the lines at which the two differ. Where one
text has run out of lines, `missingLine` stands for the line that is not there.
-/

namespace Stubsmith.Text

/-- Stands for a line that one of the texts does not have. -/
def missingLine : String :=
  "<missing>"

/-- The lines at which two lists differ: their number and the two lines, each padded by
`missingLine`. -/
def differences (number : Nat) : List String → List String → List (Nat × String × String)
  | [], [] => []
  | e :: expected, [] =>
    let rest := differences (number + 1) expected []
    if e = missingLine then rest else (number, e, missingLine) :: rest
  | [], a :: actual =>
    let rest := differences (number + 1) [] actual
    if a = missingLine then rest else (number, missingLine, a) :: rest
  | e :: expected, a :: actual =>
    let rest := differences (number + 1) expected actual
    if e = a then rest else (number, e, a) :: rest

/-- What is said about one line. -/
def differenceText : Nat × String × String → String
  | (number, expected, actual) =>
    "Line " ++ toString number ++ ":\n  expected: " ++ expected ++ "\n  actual:   " ++ actual
      ++ "\n"

/-- The message about two texts that are not equal. -/
def mismatchMessage (expected actual : String) : String :=
  "Content mismatch:\n"
    ++ match differences 1 (lines expected) (lines actual) with
      | [] => "  (contents differ only in line endings)\n"
      | ds => String.join (ds.map differenceText)

/-- Nothing for equal texts, otherwise the message. -/
def mismatch? (expected actual : String) : Option String :=
  if expected = actual then none else some (mismatchMessage expected actual)

end Stubsmith.Text
