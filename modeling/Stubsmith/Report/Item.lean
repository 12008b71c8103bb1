import Stubsmith.Diagnostic

/-!
# What a report shows

A report is a list of items with a meaning: headings, names, errors and so on. How an item looks on
a terminal is decided in one place, `ReportItem.terminal`.
-/

namespace Stubsmith

/-- One item of a report. -/
inductive ReportItem where
  | heading (text : String)
  | keyValue (key value : String)
  | listItem (text : String)
  | addedItem (text : String)
  | error (text : String)
  | warning (text : String)
  | divider (label : String)
  | preformatted (text : String)
  | blankLine
  deriving DecidableEq, Repr

/-- What goes to the two streams of a terminal. -/
structure TerminalText where
  out : String := ""
  err : String := ""
  deriving DecidableEq, Repr

namespace TerminalText

/-- One text after the other, on each stream. -/
def append (a b : TerminalText) : TerminalText :=
  ⟨a.out ++ b.out, a.err ++ b.err⟩

/-- A line on the first stream. -/
def outLine (s : String) : TerminalText :=
  { out := s ++ "\n" }

/-- A line on the stream for errors. -/
def errLine (s : String) : TerminalText :=
  { err := s ++ "\n" }

end TerminalText

namespace ReportItem

/-- How the item looks on a terminal. -/
def terminal : ReportItem → TerminalText
  | heading text => .outLine (text ++ ":")
  | keyValue key value => .outLine (key ++ ": " ++ value)
  | listItem text => .outLine ("  - " ++ text)
  | addedItem text => .outLine ("  + " ++ text)
  | error text => .errLine ("error: " ++ text)
  | warning text => .errLine ("warning: " ++ text)
  | divider label => .outLine ("── " ++ label ++ " ──")
  | preformatted text => .outLine text
  | blankLine => .outLine ""

/-- How a list of items looks on a terminal. -/
def terminalAll : List ReportItem → TerminalText
  | [] => {}
  | item :: rest => item.terminal.append (terminalAll rest)

/-- A diagnostic, with its location on a line of its own. -/
def ofDiagnostic (d : Diagnostic) : ReportItem :=
  let text :=
    match d.location with
    | some location => d.message ++ "\n  --> " ++ location
    | none => d.message
  match d.severity with
  | .error => error text
  | .warning => warning text
  | .info => preformatted ("info: " ++ text)

/-- The diagnostics, and a blank line if there are any. -/
def ofDiagnostics (ds : List Diagnostic) : List ReportItem :=
  ds.map ofDiagnostic ++ (if ds.isEmpty then [] else [blankLine])

/-- A list of names under a heading with their number; nothing for no names. -/
def ofNames (title : String) (names : List String) : List ReportItem :=
  if names.isEmpty then []
  else
    heading (title ++ " (" ++ toString names.length ++ ")")
      :: (names.map listItem ++ [blankLine])

end ReportItem

end Stubsmith
