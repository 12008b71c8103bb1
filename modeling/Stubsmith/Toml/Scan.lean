/-!
# Blanks, comments and line ends in TOML

Readers take the characters that are left and return what is left after them; `none` means that the
text is no TOML.
-/

namespace Stubsmith.Toml

/-- Blanks within a line. -/
def isBlank (c : Char) : Bool :=
  c = ' ' || c = '\t'

/-- Drops blanks within a line. -/
def skipBlank (text : List Char) : List Char :=
  text.dropWhile isBlank

/-- Whether the character may stand in a comment or a literal string. -/
def isPlain (c : Char) : Bool :=
  c = '\t' || (0x20 ≤ c.toNat && c.toNat ≠ 0x7f)

/-- Drops a line end, which is a line feed with or without a carriage return before it. -/
def lineEnd? : List Char → Option (List Char)
  | '\n' :: rest => some rest
  | '\r' :: '\n' :: rest => some rest
  | _ => none

/-- Drops a comment, if one starts here; what follows it is the end of the line or of the text. -/
def skipComment? : List Char → Option (List Char)
  | '#' :: rest =>
    let rest := rest.dropWhile isPlain
    if rest.isEmpty ∨ (lineEnd? rest).isSome then some rest else none
  | rest => some rest

/-- Drops what may stand between an expression and the end of its line, and the line end. -/
def finishLine? (text : List Char) : Option (List Char) := do
  let rest ← skipComment? (skipBlank text)
  if rest.isEmpty then some [] else lineEnd? rest

/-- Drops blanks, comments and line ends, as they may stand within brackets. -/
def skipSpace? : Nat → List Char → Option (List Char)
  | 0, _ => none
  | fuel + 1, text => do
    let rest ← skipComment? (skipBlank text)
    match lineEnd? rest with
    | some rest => skipSpace? fuel rest
    | none => some rest

/-- Drops all blanks and line ends, as after a backslash at the end of a line. -/
def skipFolded : Nat → List Char → List Char
  | 0, text => text
  | fuel + 1, text =>
    let rest := skipBlank text
    match lineEnd? rest with
    | some rest => skipFolded fuel rest
    | none => rest

end Stubsmith.Toml
