import Stubsmith.Command.Line
import Stubsmith.Command.Run
import Stubsmith.Data.Basic
import Stubsmith.Data.Decode
import Stubsmith.Data.Fault
import Stubsmith.Data.Word
import Stubsmith.Decimal.Binary64
import Stubsmith.Decimal.Notation
import Stubsmith.Decimal.Reading
import Stubsmith.Decimal.Shortest
import Stubsmith.Diagnostic
import Stubsmith.Disk.Basic
import Stubsmith.Disk.Tree
import Stubsmith.Disk.Write
import Stubsmith.Draft
import Stubsmith.Fatal
import Stubsmith.Json.Number
import Stubsmith.Json.Printer
import Stubsmith.Json.Reader
import Stubsmith.Kotlin.Function
import Stubsmith.Kotlin.Name
import Stubsmith.Kotlin.RenderFault
import Stubsmith.Kotlin.TypeText
import Stubsmith.Main
import Stubsmith.Manifest.Basic
import Stubsmith.Manifest.Fault
import Stubsmith.Manifest.Scope
import Stubsmith.Model.Annotation
import Stubsmith.Model.Configuration
import Stubsmith.Model.Declaration
import Stubsmith.Model.Decode
import Stubsmith.Model.Encode
import Stubsmith.Model.Rebuilt
import Stubsmith.Model.TypeRef
import Stubsmith.OrderedMap
import Stubsmith.Pass
import Stubsmith.Path
import Stubsmith.Proofs.Disk.Directories
import Stubsmith.Proofs.Disk.Standing
import Stubsmith.Proofs.Disk.Target
import Stubsmith.Proofs.Disk.Walking
import Stubsmith.Proofs.Disk.Writing
import Stubsmith.Proofs.Draft
import Stubsmith.Proofs.Json.RoundTrip
import Stubsmith.Proofs.Kotlin.CleanFunction
import Stubsmith.Proofs.Kotlin.Function
import Stubsmith.Proofs.Kotlin.FunctionDepth
import Stubsmith.Proofs.Kotlin.FunctionGap
import Stubsmith.Proofs.Kotlin.FunctionReading
import Stubsmith.Proofs.Kotlin.Marker
import Stubsmith.Proofs.Kotlin.Name
import Stubsmith.Proofs.Kotlin.Rendering
import Stubsmith.Proofs.Kotlin.TypeCharacters
import Stubsmith.Proofs.Kotlin.TypeFaults
import Stubsmith.Proofs.Kotlin.TypeGap
import Stubsmith.Proofs.Kotlin.TypeNormal
import Stubsmith.Proofs.Kotlin.TypeReading
import Stubsmith.Proofs.Kotlin.TypeText
import Stubsmith.Proofs.Manifest.EntryMark
import Stubsmith.Proofs.Manifest.FaultSpan
import Stubsmith.Proofs.Manifest.Names
import Stubsmith.Proofs.Manifest.Naming
import Stubsmith.Proofs.Manifest.TargetPath
import Stubsmith.Proofs.Model.Forms
import Stubsmith.Proofs.Model.Rebuilt
import Stubsmith.Proofs.Model.Respelling
import Stubsmith.Proofs.Model.RoundTrip
import Stubsmith.Proofs.Model.Shapes
import Stubsmith.Proofs.Pass.Accounts
import Stubsmith.Proofs.Pass.FileText
import Stubsmith.Proofs.Pass.Files
import Stubsmith.Proofs.Pass.Indifference
import Stubsmith.Proofs.Pass.Joined
import Stubsmith.Proofs.Pass.Output
import Stubsmith.Proofs.Pass.Policies
import Stubsmith.Proofs.Pass.Protocol
import Stubsmith.Proofs.Pass.Reading
import Stubsmith.Proofs.Pass.Rebuilt
import Stubsmith.Proofs.Pass.Run
import Stubsmith.Proofs.Pass.Session
import Stubsmith.Proofs.Path
import Stubsmith.Proofs.Path.Below
import Stubsmith.Proofs.Path.Downward
import Stubsmith.Proofs.Report.Agreement
import Stubsmith.Proofs.Report.Contents
import Stubsmith.Proofs.Sink.Filing
import Stubsmith.Proofs.Sink.Scope
import Stubsmith.Proofs.Sink.Stores
import Stubsmith.Proofs.Sink.Units
import Stubsmith.Proofs.Text
import Stubsmith.Proofs.Text.Mismatch
import Stubsmith.Report.Basic
import Stubsmith.Report.Item
import Stubsmith.Report.OfManifest
import Stubsmith.Sink.Basic
import Stubsmith.Sink.Failing
import Stubsmith.Sink.File
import Stubsmith.Sink.Memory
import Stubsmith.Sink.Unit
import Stubsmith.Text.Alphabetic
import Stubsmith.Text.CodeRange
import Stubsmith.Text.GraphemeExtend
import Stubsmith.Text.Hex
import Stubsmith.Text.Mismatch
import Stubsmith.Text.Numeric
import Stubsmith.Text.Printable
import Stubsmith.Text.Quoted
import Stubsmith.Text.Search
import Stubsmith.Text.Split
import Stubsmith.Toml.Moment
import Stubsmith.Toml.Reader
import Stubsmith.Toml.Scalar
import Stubsmith.Toml.Scan
import Stubsmith.Toml.Table
import Stubsmith.Toml.Text
