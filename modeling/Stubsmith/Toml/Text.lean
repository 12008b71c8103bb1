import Stubsmith.Text.Hex
import Stubsmith.Toml.Scan

/-!
# Strings and keys in TOML

Basic strings stand between double quotes and know escapes, literal strings stand between single
quotes and know none. Three quotes allow several lines: a line end right after them is dropped, and
up to two quotes may stand before the closing ones.
-/

namespace Stubsmith.Toml

open Stubsmith.Text

/-- Reads what follows the backslash of an escape. -/
def readEscape? : List Char → Option (Char × List Char)
  | 'b' :: rest => some ('\x08', rest)
  | 't' :: rest => some ('\t', rest)
  | 'n' :: rest => some ('\n', rest)
  | 'f' :: rest => some ('\x0c', rest)
  | 'r' :: rest => some ('\r', rest)
  | 'e' :: rest => some ('\x1b', rest)
  | '"' :: rest => some ('"', rest)
  | '\\' :: rest => some ('\\', rest)
  | 'x' :: rest => readCode? 2 rest
  | 'u' :: rest => readCode? 4 rest
  | 'U' :: rest => readCode? 8 rest
  | _ => none
where
  /-- Reads the character with the code point given by so many hexadecimal digits. -/
  readCode? (size : Nat) (text : List Char) : Option (Char × List Char) :=
    let digits := text.take size
    if digits.length < size then none
    else do
      let character ← charOfCode? (← hexNumber? digits)
      return (character, text.drop size)

/-- Reads a basic string up to its closing quote. -/
def readBasic? : Nat → List Char → Option (List Char × List Char)
  | 0, _ => none
  | _, [] => none
  | _, '"' :: rest => some ([], rest)
  | fuel + 1, '\\' :: rest => do
    let (character, rest) ← readEscape? rest
    let (characters, rest) ← readBasic? fuel rest
    return (character :: characters, rest)
  | fuel + 1, c :: rest => do
    if !isPlain c then none
    let (characters, rest) ← readBasic? fuel rest
    return (c :: characters, rest)

/-- Reads a literal string up to its closing quote. -/
def readLiteral? : List Char → Option (List Char × List Char)
  | [] => none
  | '\'' :: rest => some ([], rest)
  | c :: rest => do
    if !isPlain c then none
    let (characters, rest) ← readLiteral? rest
    return (c :: characters, rest)

/-- Up to two quotes that stand right after three closing ones belong to the string. -/
def lateQuotes (quote : Char) : List Char → List Char × List Char
  | a :: b :: rest =>
    if a = quote ∧ b = quote then ([a, b], rest)
    else if a = quote then ([a], b :: rest)
    else ([], a :: b :: rest)
  | [a] => if a = quote then ([a], []) else ([], [a])
  | [] => ([], [])

/-- Reads a basic string over several lines up to its closing quotes. A backslash before a line end
drops everything up to the next character that is no blank. -/
def readMultiBasic? : Nat → List Char → Option (List Char × List Char)
  | 0, _ => none
  | _, '"' :: '"' :: '"' :: rest => some (lateQuotes '"' rest)
  | fuel + 1, '\\' :: rest =>
    match lineEnd? (skipBlank rest) with
    | some rest => readMultiBasic? fuel (skipFolded rest.length rest)
    | none => do
      let (character, rest) ← readEscape? rest
      let (characters, rest) ← readMultiBasic? fuel rest
      return (character :: characters, rest)
  | fuel + 1, '\r' :: '\n' :: rest => do
    let (characters, rest) ← readMultiBasic? fuel rest
    return ('\r' :: '\n' :: characters, rest)
  | fuel + 1, c :: rest => do
    if !(isPlain c || c = '\n') then none
    let (characters, rest) ← readMultiBasic? fuel rest
    return (c :: characters, rest)
  | _, [] => none

/-- Reads a literal string over several lines up to its closing quotes. -/
def readMultiLiteral? : List Char → Option (List Char × List Char)
  | '\'' :: '\'' :: '\'' :: rest => some (lateQuotes '\'' rest)
  | '\r' :: '\n' :: rest => do
    let (characters, rest) ← readMultiLiteral? rest
    return ('\r' :: '\n' :: characters, rest)
  | c :: rest => do
    if !(isPlain c || c = '\n') then none
    let (characters, rest) ← readMultiLiteral? rest
    return (c :: characters, rest)
  | [] => none

/-- Drops a line end right after opening quotes. -/
def dropFirstLineEnd (text : List Char) : List Char :=
  (lineEnd? text).getD text

/-- Reads a string of any form, if one starts here. -/
def readString? (text : List Char) : Option (String × List Char) :=
  let asString := fun (characters, rest) => (String.ofList characters, rest)
  match text with
  | '"' :: '"' :: '"' :: rest =>
    (readMultiBasic? (rest.length + 1) (dropFirstLineEnd rest)).map asString
  | '"' :: rest => (readBasic? (rest.length + 1) rest).map asString
  | '\'' :: '\'' :: '\'' :: rest => (readMultiLiteral? (dropFirstLineEnd rest)).map asString
  | '\'' :: rest => (readLiteral? rest).map asString
  | _ => none

/-- Whether the character may stand in a bare key. -/
def isBare (c : Char) : Bool :=
  c.isAlphanum || c = '_' || c = '-'

/-- Reads one piece of a key: a bare word, or a string on one line. -/
def readSimpleKey? (text : List Char) : Option (String × List Char) :=
  match text with
  | '"' :: rest => do
    let (characters, rest) ← readBasic? (rest.length + 1) rest
    return (String.ofList characters, rest)
  | '\'' :: rest => do
    let (characters, rest) ← readLiteral? rest
    return (String.ofList characters, rest)
  | _ =>
    let word := text.takeWhile isBare
    if word.isEmpty then none else some (String.ofList word, text.dropWhile isBare)

/-- Reads the pieces of a key, which dots with or without blanks separate, and drops blanks after
it. -/
def readKey? : Nat → List Char → Option (List String × List Char)
  | 0, _ => none
  | fuel + 1, text => do
    let (piece, rest) ← readSimpleKey? (skipBlank text)
    match skipBlank rest with
    | '.' :: rest => do
      let (pieces, rest) ← readKey? fuel rest
      return (piece :: pieces, rest)
    | rest => some ([piece], rest)

end Stubsmith.Toml
