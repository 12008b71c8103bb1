import Stubsmith.Toml.Scalar
import Stubsmith.Toml.Table
import Stubsmith.Toml.Text

/-!
# Reading TOML

`Toml.parse?` reads a document as a tree of data in which the fields of every record are in the
order of their keys. Line ends, comments and a comma after the last entry may stand in the braces of
inline tables as in the brackets of lists. Lists and inline tables may be nested eighty deep.
-/

namespace Stubsmith.Toml

/-- The greatest depth to which lists and inline tables may be nested. -/
def maxDepth : Nat :=
  80

mutual

/-- Reads a value that stands inside `depth` brackets and braces. Readers are nested at most twice
for every character, which bounds the fuel. -/
def readValue? : Nat → Nat → List Char → Option (Node × List Char)
  | 0, _, _ => none
  | fuel + 1, depth, text =>
    match text with
    | '[' :: rest =>
      if maxDepth ≤ depth then none
      else do
        let (items, rest) ← readItems? fuel (depth + 1) rest
        return (.list items, rest)
    | '{' :: rest =>
      if maxDepth ≤ depth then none
      else do
        let (entries, rest) ← readEntries? fuel (depth + 1) [] rest
        return (.table .inline entries, rest)
    | '"' :: _ => (readString? text).map fun (s, rest) => (.scalar (.text s), rest)
    | '\'' :: _ => (readString? text).map fun (s, rest) => (.scalar (.text s), rest)
    | _ => (readScalar? text).map fun (d, rest) => (.scalar d, rest)

/-- Reads the items of a list up to the closing bracket. -/
def readItems? : Nat → Nat → List Char → Option (List Node × List Char)
  | 0, _, _ => none
  | fuel + 1, depth, text => do
    match ← skipSpace? (text.length + 1) text with
    | ']' :: rest => some ([], rest)
    | rest => do
      let (item, rest) ← readValue? fuel depth rest
      match ← skipSpace? (rest.length + 1) rest with
      | ',' :: rest => do
        let (items, rest) ← readItems? fuel depth rest
        return (item :: items, rest)
      | ']' :: rest => some ([item], rest)
      | _ => none

/-- Reads the entries of an inline table up to the closing brace, after those already read. -/
def readEntries? : Nat → Nat → Entries → List Char → Option (Entries × List Char)
  | 0, _, _, _ => none
  | fuel + 1, depth, entries, text => do
    match ← skipSpace? (text.length + 1) text with
    | '}' :: rest => some (entries, rest)
    | rest => do
      let (key, rest) ← readKey? (rest.length + 1) rest
      match rest with
      | '=' :: rest => do
        let (value, rest) ← readValue? fuel depth (skipBlank rest)
        let entries ← Entries.add key value .inline entries
        match ← skipSpace? (rest.length + 1) rest with
        | ',' :: rest => readEntries? fuel depth entries rest
        | '}' :: rest => some (entries, rest)
        | _ => none
      | _ => none

end

/-- What one expression of a document does. -/
inductive Expression where
  | openTable (key : List String)
  | openItem (key : List String)
  | assign (key : List String) (value : Node)

/-- Reads a header or an assignment. -/
def readExpression? (text : List Char) : Option (Expression × List Char) :=
  match text with
  | '[' :: '[' :: rest => do
    let (key, rest) ← readKey? (rest.length + 1) rest
    match rest with
    | ']' :: ']' :: rest => some (.openItem key, rest)
    | _ => none
  | '[' :: rest => do
    let (key, rest) ← readKey? (rest.length + 1) rest
    match rest with
    | ']' :: rest => some (.openTable key, rest)
    | _ => none
  | _ => do
    let (key, rest) ← readKey? (text.length + 1) text
    match rest with
    | '=' :: rest => do
      let (value, rest) ← readValue? (2 * rest.length + 2) 0 (skipBlank rest)
      return (.assign key value, rest)
    | _ => none

/-- Reads the expressions that are left, below the header `header`. -/
def readExpressions? : Nat → List String → Entries → List Char → Option Entries
  | 0, _, _, _ => none
  | fuel + 1, header, root, text => do
    let rest ← skipSpace? (text.length + 1) text
    if rest.isEmpty then some root
    else do
      let (expression, rest) ← readExpression? rest
      let rest ← finishLine? rest
      match expression with
      | .openTable key => do
        let root ← root.openTable key
        readExpressions? fuel key root rest
      | .openItem key => do
        let root ← root.openItem key
        readExpressions? fuel key root rest
      | .assign key value => do
        let root ← root.addBelow header key value
        readExpressions? fuel header root rest

/-- Reads a document. A byte order mark at the front is dropped. -/
def parse? (text : String) : Option Data := do
  let characters :=
    match text.toList with
    | '\ufeff' :: rest => rest
    | characters => characters
  let entries ← readExpressions? (characters.length + 1) [] [] characters
  return (Node.table .header entries).toData

end Stubsmith.Toml
