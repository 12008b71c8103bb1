import Stubsmith.Data.Basic
import Stubsmith.Path
import Stubsmith.Report.Item

/-!
# Reports

What is told about a pass: the verdict of a check, which writes nothing, and the report of a
generation, which has written files or shows the files that it would write. Both list the
diagnostics, the failed and the deferred declarations in order. Files are listed by their paths,
which become texts where they are shown: the text of a path is always Unicode (`Path`), so nothing
of it is lost or replaced then.
-/

namespace Stubsmith

/-! ## The verdict of a check -/

/-- What a pass that writes nothing found out. -/
structure CheckVerdict where
  configPath : Path
  /-- The functions that the pass would generate. -/
  functions : List String
  failed : List String
  deferred : List String
  diagnostics : List Diagnostic

/-- A diagnostic as a tree of data. -/
def Diagnostic.toData (d : Diagnostic) : Data :=
  .record [("severity", .text d.severity.label), ("phase", .text d.phase),
    ("message", .text d.message),
    ("location", match d.location with
      | some location => .text location
      | none => .null)]

/-- Names as a tree of data. -/
def Data.ofNames (names : List String) : Data :=
  .list (names.map .text)

namespace CheckVerdict

/-- Whether there is no error. -/
def isValid (r : CheckVerdict) : Bool :=
  !r.diagnostics.any (·.isError)

/-- The line that says that all is well. -/
def validLine (r : CheckVerdict) : String :=
  "✓ " ++ r.configPath.text ++ " is valid (" ++ toString r.functions.length ++ " function"
    ++ (if r.functions.length = 1 then "" else "s") ++ ")"

/-- What is shown of the verdict. -/
def items (r : CheckVerdict) : List ReportItem :=
  ReportItem.ofDiagnostics r.diagnostics
    ++ ReportItem.ofNames "Failed" r.failed
    ++ ReportItem.ofNames "Deferred" r.deferred
    ++ (if r.isValid then [.preformatted r.validLine] else [])

/-- The verdict as a tree of data. -/
def toData (r : CheckVerdict) : Data :=
  .record [("config_path", .text r.configPath.text), ("functions", .ofNames r.functions),
    ("failed", .ofNames r.failed), ("deferred", .ofNames r.deferred),
    ("diagnostics", .list (r.diagnostics.map (·.toData)))]

end CheckVerdict

/-! ## The report of a generation -/

/-- A file that would be written. The path is kept as such, and shown as its text. -/
structure PlannedFile where
  path : Path
  content : String
  deriving DecidableEq, Repr

/-- What became of the generated text. -/
inductive GeneratedFiles where
  | written (files : List Path)
  | preview (files : List PlannedFile)
  deriving DecidableEq, Repr

/-- What a pass generated. -/
structure GenerationReport where
  marker : String
  functions : List String
  failed : List String
  deferred : List String
  diagnostics : List Diagnostic
  result : GeneratedFiles

namespace GenerationReport

/-- Whether there is an error. -/
def hasErrors (r : GenerationReport) : Bool :=
  r.diagnostics.any (·.isError)

/-- What the report shows once files are written. -/
def writtenItems (r : GenerationReport) (files : List Path) : List ReportItem :=
  ReportItem.ofDiagnostics r.diagnostics
    ++ if files.isEmpty then [.preformatted ("No declarations annotated with @" ++ r.marker)]
      else
        .heading ("Functions (" ++ toString r.functions.length ++ ")")
          :: (r.functions.map .addedItem ++ [.blankLine]
            ++ ReportItem.ofNames "Failed" r.failed
            ++ ReportItem.ofNames "Deferred" r.deferred
            ++ files.map fun file => .keyValue "Generated" file.text)

/-- What the report shows of files that would be written. -/
def previewItems (r : GenerationReport) (files : List PlannedFile) : List ReportItem :=
  ReportItem.ofDiagnostics r.diagnostics
    ++ files.flatMap (fun file => [.divider file.path.text, .preformatted file.content])
    ++ ReportItem.ofNames "Failed" r.failed
    ++ ReportItem.ofNames "Deferred" r.deferred
    ++ [.divider "Summary",
      .preformatted (toString r.functions.length ++ " functions would be generated")]

/-- What the report shows. -/
def items (r : GenerationReport) : List ReportItem :=
  match r.result with
  | .written files => r.writtenItems files
  | .preview files => r.previewItems files

end GenerationReport

end Stubsmith
