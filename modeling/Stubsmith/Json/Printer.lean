import Stubsmith.Data.Basic
import Stubsmith.Decimal.Notation
import Stubsmith.Text.Quoted

/-!
# Writing JSON

A tree of data as JSON, on one line (`compact`) or spread over lines with an indentation of two
spaces (`pretty`). Only quotes, backslashes and control characters are escaped.
-/

namespace Stubsmith.Json

open Stubsmith.Text

/-- A character as it stands in a string. -/
def stringChar (c : Char) : List Char :=
  if c = '"' then ['\\', '"']
  else if c = '\\' then ['\\', '\\']
  else if c = '\x08' then ['\\', 'b']
  else if c = '\x0c' then ['\\', 'f']
  else if c = '\n' then ['\\', 'n']
  else if c = '\r' then ['\\', 'r']
  else if c = '\t' then ['\\', 't']
  else if c.toNat < 0x20 then
    ['\\', 'u', '0', '0'] ++ (if c.toNat < 0x10 then ['0'] else []) ++ hexDigits c.toNat
  else [c]

/-- A string with its quotes. -/
def stringText (s : String) : String :=
  String.ofList ('"' :: s.toList.flatMap stringChar ++ ['"'])

/-- A scalar; `none` for lists and records. -/
def scalarText? : Data → Option String
  | .null => some "null"
  | .boolean b => some (if b then "true" else "false")
  | .integer i => some (toString i)
  | .float x =>
    some (if Decimal.isFinite x then Decimal.FloatStyle.scientific.format x else "null")
  | .text s => some (stringText s)
  | .moment s => some (stringText s)
  | .list _ => none
  | .record _ => none

mutual

/-- The tree on one line, without blanks. -/
def compact : Data → String
  | .list items => "[" ++ compactItems true items ++ "]"
  | .record fields => "\x7b" ++ compactFields true fields ++ "\x7d"
  | d => (scalarText? d).getD ""

/-- The items of a list, a comma before each but the first. -/
def compactItems (isFirst : Bool) : List Data → String
  | [] => ""
  | d :: rest => (if isFirst then "" else ",") ++ compact d ++ compactItems false rest

/-- The fields of a record, a comma before each but the first. -/
def compactFields (isFirst : Bool) : List (String × Data) → String
  | [] => ""
  | (key, d) :: rest =>
    (if isFirst then "" else ",") ++ stringText key ++ ":" ++ compact d ++ compactFields false rest

end

/-- A new line indented to the depth. -/
def newLine (depth : Nat) : String :=
  "\n" ++ String.ofList (List.replicate (2 * depth) ' ')

mutual

/-- The tree over several lines, from a line indented to the depth. Empty lists and records stay on
their line. -/
def prettyAt (depth : Nat) : Data → String
  | .list [] => "[]"
  | .list items => "[" ++ prettyItems (depth + 1) true items ++ newLine depth ++ "]"
  | .record [] => "\x7b\x7d"
  | .record fields => "\x7b" ++ prettyFields (depth + 1) true fields ++ newLine depth ++ "\x7d"
  | d => (scalarText? d).getD ""

/-- The items of a list, each on a line of its own. -/
def prettyItems (depth : Nat) (isFirst : Bool) : List Data → String
  | [] => ""
  | d :: rest =>
    (if isFirst then "" else ",") ++ newLine depth ++ prettyAt depth d
      ++ prettyItems depth false rest

/-- The fields of a record, each on a line of its own. -/
def prettyFields (depth : Nat) (isFirst : Bool) : List (String × Data) → String
  | [] => ""
  | (key, d) :: rest =>
    (if isFirst then "" else ",") ++ newLine depth ++ stringText key ++ ": " ++ prettyAt depth d
      ++ prettyFields depth false rest

end

/-- The tree over several lines. -/
def pretty (d : Data) : String :=
  prettyAt 0 d

end Stubsmith.Json
