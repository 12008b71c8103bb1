/-!
# Diagnostics

What a pass has to say about single declarations, and the log that collects it in order.
-/

namespace Stubsmith

/-- How serious a diagnostic is. -/
inductive Severity where
  | error
  | warning
  | info
  deriving DecidableEq, Repr

/-- The word for the severity. -/
def Severity.label : Severity → String
  | error => "error"
  | warning => "warning"
  | info => "info"

/-- A message from one phase of a pass, with the symbol it is about. -/
structure Diagnostic where
  severity : Severity
  phase : String
  message : String
  location : Option String := none
  deriving DecidableEq, Repr

namespace Diagnostic

/-- Whether the diagnostic is an error. -/
def isError (d : Diagnostic) : Bool :=
  d.severity == .error

/-- Whether the diagnostic is a warning. -/
def isWarning (d : Diagnostic) : Bool :=
  d.severity == .warning

/-- Whether the diagnostic only informs. -/
def isInfo (d : Diagnostic) : Bool :=
  d.severity == .info

/-- The diagnostic on one line. -/
def display (d : Diagnostic) : String :=
  d.severity.label ++ ": " ++ d.message
    ++ match d.location with
      | some location => " (at " ++ location ++ ")"
      | none => ""

end Diagnostic

/-- The diagnostics of one or more passes in the order in which they were reported. -/
structure Log where
  diagnostics : List Diagnostic := []
  deriving DecidableEq, Repr

namespace Log

/-- Adds a diagnostic. -/
def report (log : Log) (d : Diagnostic) : Log :=
  ⟨log.diagnostics ++ [d]⟩

/-- Adds several diagnostics. -/
def reportAll (log : Log) (ds : List Diagnostic) : Log :=
  ⟨log.diagnostics ++ ds⟩

/-- Adds an error about a symbol. -/
def error (log : Log) (message symbol : String) : Log :=
  log.report { severity := .error, phase := "process", message, location := some symbol }

/-- Adds a warning about a symbol. -/
def warn (log : Log) (message symbol : String) : Log :=
  log.report { severity := .warning, phase := "process", message, location := some symbol }

/-- The errors, in order. -/
def errors (log : Log) : List Diagnostic :=
  log.diagnostics.filter (·.isError)

/-- The warnings, in order. -/
def warnings (log : Log) : List Diagnostic :=
  log.diagnostics.filter (·.isWarning)

/-- Whether an error was reported. -/
def hasErrors (log : Log) : Bool :=
  log.diagnostics.any (·.isError)

end Log

end Stubsmith
