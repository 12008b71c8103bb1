import Stubsmith.Data.Basic
import Stubsmith.OrderedMap

/-!
# Tables of a TOML document

A document is a table that grows entry by entry. How a table came to be decides what may still be
added to it: a header defines a table once, dotted keys extend only tables made by dotted keys, and
nothing is added to an inline table or to a list written with brackets.
-/

namespace Stubsmith.Toml

/-- How a table came to be. -/
inductive Origin where
  /-- By its own header, or as an item of a list of tables. -/
  | header
  /-- As a step on the way of a header. -/
  | implied
  /-- As a step on the way of a dotted key. -/
  | dotted
  /-- Written in braces. -/
  | inline
  deriving DecidableEq, Repr

/-- A value of a document. -/
inductive Node where
  | scalar (value : Data)
  | list (items : List Node)
  /-- The tables of a list made by headers in double brackets. -/
  | tables (items : List Node)
  | table (origin : Origin) (entries : List (String × Node))

/-- The entries of a table in the order in which they were written. -/
abbrev Entries := List (String × Node)

namespace Entries

/-- Changes the table at the end of a path, by a function that is given how this table came to be.
Steps that are missing are made. With `byDots` the path belongs to a dotted key, which must not pass
through a table that has a header of its own. -/
def change (byDots : Bool) (f : Origin → Entries → Option Entries) :
    Origin → List String → Entries → Option Entries
  | origin, [], entries => f origin entries
  | _, key :: rest, entries =>
    let inner : Origin := if byDots then .dotted else .implied
    match entries.lookup key with
    | none => do
      let below ← change byDots f inner rest []
      return OrderedMap.setEntry key (.table inner below) entries
    | some (.table origin below) =>
      if origin = .inline ∨ (byDots ∧ origin = .header) then none
      else do
        let below ← change byDots f origin rest below
        return OrderedMap.setEntry key (.table origin below) entries
    | some (.tables items) =>
      match items.reverse with
      | .table origin below :: earlier => do
        let below ← change byDots f origin rest below
        return OrderedMap.setEntry key (.tables (earlier.reverse ++ [.table origin below])) entries
      | _ => none
    | some _ => none

/-- Adds an entry to a table that was reached by a key with or without dots. -/
def addHere (hasDots : Bool) (key : String) (value : Node) (origin : Origin) (entries : Entries) :
    Option Entries :=
  if hasDots ≠ (origin = .dotted : Bool) then none
  else if (entries.lookup key).isSome then none
  else some (entries ++ [(key, value)])

/-- Adds the value of a key with its pieces to a table. -/
def add (key : List String) (value : Node) (origin : Origin) (entries : Entries) : Option Entries :=
  match key.getLast? with
  | none => none
  | some last =>
    change true (addHere (!key.dropLast.isEmpty) last value) origin key.dropLast entries

/-- Opens a table by a header. -/
def openTable (key : List String) (root : Entries) : Option Entries :=
  match key.getLast? with
  | none => none
  | some last =>
    change false (fun _ entries =>
      match entries.lookup last with
      | none => some (entries ++ [(last, .table .header [])])
      | some (.table .implied below) =>
        some (OrderedMap.setEntry last (.table .header below) entries)
      | some _ => none) .header key.dropLast root

/-- Opens the next table of a list by a header. -/
def openItem (key : List String) (root : Entries) : Option Entries :=
  match key.getLast? with
  | none => none
  | some last =>
    change false (fun _ entries =>
      match entries.lookup last with
      | none => some (entries ++ [(last, .tables [.table .header []])])
      | some (.tables items) =>
        some (OrderedMap.setEntry last (.tables (items ++ [.table .header []])) entries)
      | some _ => none) .header key.dropLast root

/-- Adds the value of a key below the table that was opened last. -/
def addBelow (header key : List String) (value : Node) (root : Entries) : Option Entries :=
  change false (add key value) .header header root

end Entries

/-- Puts the fields of a record in the order of their keys. -/
def sortFields (fields : List (String × Data)) : List (String × Data) :=
  fields.mergeSort fun a b => decide (a.1 < b.1) || a.1 == b.1

mutual

/-- The tree of a value; the fields of every record are in the order of their keys. -/
def Node.toData : Node → Data
  | .scalar value => value
  | .list items => .list (Node.itemsToData items)
  | .tables items => .list (Node.itemsToData items)
  | .table _ entries => .record (sortFields (Node.entriesToData entries))

/-- The trees of several values. -/
def Node.itemsToData : List Node → List Data
  | [] => []
  | n :: rest => n.toData :: Node.itemsToData rest

/-- The trees of the entries of a table. -/
def Node.entriesToData : List (String × Node) → List (String × Data)
  | [] => []
  | (key, n) :: rest => (key, n.toData) :: Node.entriesToData rest

end

end Stubsmith.Toml
