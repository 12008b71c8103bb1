import Stubsmith.Data.Basic
import Stubsmith.Json.Number
import Stubsmith.OrderedMap
import Stubsmith.Text.Hex

/-!
# Reading JSON

`Json.parse?` reads one JSON text as a tree of data. The fields of an object keep their order; of a
key that occurs twice the last value counts, in the place of the first. Lists and objects may be
nested 127 deep. Readers take the characters that are left and return what they have read with what
is left then.
-/

namespace Stubsmith.Json

open Stubsmith.Text

/-- Drops blanks between tokens. -/
def skipBlank (text : List Char) : List Char :=
  text.dropWhile fun c => c = ' ' || c = '\t' || c = '\n' || c = '\r'

/-- The character that a one-letter escape stands for. -/
def escaped? : Char → Option Char
  | '"' => some '"'
  | '\\' => some '\\'
  | '/' => some '/'
  | 'b' => some '\x08'
  | 'f' => some '\x0c'
  | 'n' => some '\n'
  | 'r' => some '\r'
  | 't' => some '\t'
  | _ => none

/-- Reads the characters of a string up to the closing quote. Characters beyond the basic plane may
be written as two escapes, one for each surrogate. -/
def readString? : List Char → Option (List Char × List Char)
  | [] => none
  | '"' :: rest => some ([], rest)
  | '\\' :: 'u' :: a :: b :: c :: d :: rest => do
    let code ← hexNumber? [a, b, c, d]
    if 0xd800 ≤ code ∧ code < 0xdc00 then
      match rest with
      | '\\' :: 'u' :: a :: b :: c :: d :: rest => do
        let low ← hexNumber? [a, b, c, d]
        if low < 0xdc00 ∨ 0xdfff < low then none
        let (characters, rest) ← readString? rest
        return (Char.ofNat (0x10000 + (code - 0xd800) * 0x400 + (low - 0xdc00)) :: characters, rest)
      | _ => none
    else do
      let character ← charOfCode? code
      let (characters, rest) ← readString? rest
      return (character :: characters, rest)
  | '\\' :: c :: rest => do
    let character ← escaped? c
    let (characters, rest) ← readString? rest
    return (character :: characters, rest)
  | c :: rest => do
    if c.toNat < 0x20 then none
    let (characters, rest) ← readString? rest
    return (c :: characters, rest)

/-- The greatest depth to which lists and objects may be nested. -/
def maxDepth : Nat :=
  127

mutual

/-- Reads a value in which brackets and braces may be nested `depth` deep. Readers are nested at
most twice for every character, which bounds the fuel. -/
def readValue? : Nat → Nat → List Char → Option (Data × List Char)
  | 0, _, _ => none
  | fuel + 1, depth, text =>
    match skipBlank text with
    | '{' :: rest =>
      match depth with
      | 0 => none
      | depth + 1 =>
        match skipBlank rest with
        | '}' :: rest => some (.record [], rest)
        | rest => do
          let (fields, rest) ← readFields? fuel depth rest
          return (.record (OrderedMap.ofList fields).entries, rest)
    | '[' :: rest =>
      match depth with
      | 0 => none
      | depth + 1 =>
        match skipBlank rest with
        | ']' :: rest => some (.list [], rest)
        | rest => do
          let (items, rest) ← readItems? fuel depth rest
          return (.list items, rest)
    | '"' :: rest => do
      let (characters, rest) ← readString? rest
      return (.text (String.ofList characters), rest)
    | 't' :: 'r' :: 'u' :: 'e' :: rest => some (.boolean true, rest)
    | 'f' :: 'a' :: 'l' :: 's' :: 'e' :: rest => some (.boolean false, rest)
    | 'n' :: 'u' :: 'l' :: 'l' :: rest => some (.null, rest)
    | rest => readNumber? rest

/-- Reads the items of a list up to the closing bracket. -/
def readItems? : Nat → Nat → List Char → Option (List Data × List Char)
  | 0, _, _ => none
  | fuel + 1, depth, text => do
    let (item, rest) ← readValue? fuel depth text
    match skipBlank rest with
    | ',' :: rest => do
      let (items, rest) ← readItems? fuel depth rest
      return (item :: items, rest)
    | ']' :: rest => some ([item], rest)
    | _ => none

/-- Reads the fields of an object up to the closing brace. -/
def readFields? : Nat → Nat → List Char → Option (List (String × Data) × List Char)
  | 0, _, _ => none
  | fuel + 1, depth, text =>
    match skipBlank text with
    | '"' :: rest => do
      let (key, rest) ← readString? rest
      match skipBlank rest with
      | ':' :: rest => do
        let (value, rest) ← readValue? fuel depth rest
        match skipBlank rest with
        | ',' :: rest => do
          let (fields, rest) ← readFields? fuel depth rest
          return ((String.ofList key, value) :: fields, rest)
        | '}' :: rest => some ([(String.ofList key, value)], rest)
        | _ => none
      | _ => none
    | _ => none

end

/-- Reads a text that holds one value and nothing else. -/
def parse? (text : String) : Option Data := do
  let characters := text.toList
  let (value, rest) ← readValue? (2 * characters.length + 2) maxDepth characters
  if (skipBlank rest).isEmpty then some value else none

end Stubsmith.Json
