import ModuleAudit.Audit.Evaluation
import ModuleAudit.Catalog.Basic
import ModuleAudit.Catalog.Bundled
import ModuleAudit.Catalog.Loading
import ModuleAudit.Catalog.Validation
import ModuleAudit.Checks.Basic
import ModuleAudit.Checks.Cancellation
import ModuleAudit.Checks.Cursor
import ModuleAudit.Checks.Destination
import ModuleAudit.Checks.IntegrationTest
import ModuleAudit.Checks.Naming
import ModuleAudit.Checks.Packaging
import ModuleAudit.Checks.RecordFlow
import ModuleAudit.Checks.Registry
import ModuleAudit.Command.LogText
import ModuleAudit.Command.Program
import ModuleAudit.Command.Request
import ModuleAudit.Command.Word
import ModuleAudit.Condition.Basic
import ModuleAudit.Condition.Validation
import ModuleAudit.Connector.Checkout
import ModuleAudit.Connector.Classification
import ModuleAudit.Connector.Files
import ModuleAudit.Connector.Location
import ModuleAudit.Connector.Pom
import ModuleAudit.Disk.Access
import ModuleAudit.Disk.Basic
import ModuleAudit.Fault
import ModuleAudit.Inspection.Basic
import ModuleAudit.Inspection.Programs
import ModuleAudit.Java.Annotation
import ModuleAudit.Java.Bracket
import ModuleAudit.Java.Method
import ModuleAudit.Java.Source
import ModuleAudit.Java.Token
import ModuleAudit.Json.Basic
import ModuleAudit.Json.Reading
import ModuleAudit.Json.Text
import ModuleAudit.Main
import ModuleAudit.Markup.Character
import ModuleAudit.Markup.Content
import ModuleAudit.Markup.Element
import ModuleAudit.Markup.Encoding
import ModuleAudit.Markup.Entity
import ModuleAudit.Markup.Grammar
import ModuleAudit.Markup.Malformed
import ModuleAudit.Markup.Namespace
import ModuleAudit.Markup.Prolog
import ModuleAudit.Markup.Scan
import ModuleAudit.Markup.Tag
import ModuleAudit.Number.Arithmetic
import ModuleAudit.Number.Binary64
import ModuleAudit.Number.Digits
import ModuleAudit.Number.Reading
import ModuleAudit.Number.Text
import ModuleAudit.Path
import ModuleAudit.Pattern.Basic
import ModuleAudit.Pattern.Search
import ModuleAudit.Proofs.Answer
import ModuleAudit.Proofs.Audit.Build
import ModuleAudit.Proofs.Audit.ExitCode
import ModuleAudit.Proofs.Audit.Programs
import ModuleAudit.Proofs.Audit.Run
import ModuleAudit.Proofs.Catalog.Advisory
import ModuleAudit.Proofs.Catalog.Applicability
import ModuleAudit.Proofs.Catalog.Binding
import ModuleAudit.Proofs.Catalog.Bundled
import ModuleAudit.Proofs.Catalog.Loading
import ModuleAudit.Proofs.Catalog.Problems
import ModuleAudit.Proofs.Catalog.Running
import ModuleAudit.Proofs.Catalog.Unconditional
import ModuleAudit.Proofs.Catalog.Validation
import ModuleAudit.Proofs.Checks.Cancellation
import ModuleAudit.Proofs.Checks.Cursor
import ModuleAudit.Proofs.Checks.Evidence
import ModuleAudit.Proofs.Checks.Icon
import ModuleAudit.Proofs.Checks.Management
import ModuleAudit.Proofs.Checks.Moved
import ModuleAudit.Proofs.Checks.Naming
import ModuleAudit.Proofs.Checks.Property
import ModuleAudit.Proofs.Checks.Registration
import ModuleAudit.Proofs.Checks.Staging
import ModuleAudit.Proofs.Checks.Steady
import ModuleAudit.Proofs.Checks.Uncommented
import ModuleAudit.Proofs.Checks.Unnoticed
import ModuleAudit.Proofs.Command.Contract
import ModuleAudit.Proofs.Command.LineEnds
import ModuleAudit.Proofs.Command.Relocation
import ModuleAudit.Proofs.Command.Request
import ModuleAudit.Proofs.Condition.Grammar
import ModuleAudit.Proofs.Condition.Meaning
import ModuleAudit.Proofs.Connector.Classification
import ModuleAudit.Proofs.Connector.Delegation
import ModuleAudit.Proofs.Connector.Location
import ModuleAudit.Proofs.Connector.Pom
import ModuleAudit.Proofs.Connector.Relocation
import ModuleAudit.Proofs.Disk.Access
import ModuleAudit.Proofs.Disk.Content
import ModuleAudit.Proofs.Disk.LineEnds
import ModuleAudit.Proofs.Disk.PathOrder
import ModuleAudit.Proofs.Inspection.Looks
import ModuleAudit.Proofs.Java.Body
import ModuleAudit.Proofs.Java.Bracket
import ModuleAudit.Proofs.Java.Call
import ModuleAudit.Proofs.Java.Closing
import ModuleAudit.Proofs.Java.Constants
import ModuleAudit.Proofs.Java.Copies
import ModuleAudit.Proofs.Java.Declaration
import ModuleAudit.Proofs.Java.Found
import ModuleAudit.Proofs.Java.Grammar
import ModuleAudit.Proofs.Java.Literal
import ModuleAudit.Proofs.Java.Mention
import ModuleAudit.Proofs.Java.Nesting
import ModuleAudit.Proofs.Java.Outline
import ModuleAudit.Proofs.Java.Property
import ModuleAudit.Proofs.Java.Recovery
import ModuleAudit.Proofs.Java.Returned
import ModuleAudit.Proofs.Java.Splice
import ModuleAudit.Proofs.Java.Uncommented
import ModuleAudit.Proofs.Java.Unnoticed
import ModuleAudit.Proofs.Json.Grammar
import ModuleAudit.Proofs.Json.Written
import ModuleAudit.Proofs.Markup.Content
import ModuleAudit.Proofs.Markup.Document
import ModuleAudit.Proofs.Markup.Element
import ModuleAudit.Proofs.Markup.Namespace
import ModuleAudit.Proofs.Markup.Scan
import ModuleAudit.Proofs.Markup.Text
import ModuleAudit.Proofs.Pattern.Ends
import ModuleAudit.Proofs.Pattern.First
import ModuleAudit.Proofs.Pattern.Fit
import ModuleAudit.Proofs.Report.Amount
import ModuleAudit.Proofs.Report.Json
import ModuleAudit.Proofs.Report.Lines
import ModuleAudit.Proofs.Report.Reading
import ModuleAudit.Proofs.Template.Fill
import ModuleAudit.Proofs.Text.Lines
import ModuleAudit.Proofs.Value.Sameness
import ModuleAudit.Report.Basic
import ModuleAudit.Report.Json
import ModuleAudit.Report.Text
import ModuleAudit.Template.Fill
import ModuleAudit.Template.Layout
import ModuleAudit.Template.Segment
import ModuleAudit.Template.Subject
import ModuleAudit.Text.Alphanumeric
import ModuleAudit.Text.Base64
import ModuleAudit.Text.Blank
import ModuleAudit.Text.Digit
import ModuleAudit.Text.Lines
import ModuleAudit.Text.Lower
import ModuleAudit.Text.Occurrence
import ModuleAudit.Text.Printable
import ModuleAudit.Text.Quoted
import ModuleAudit.Text.RangeTable
import ModuleAudit.Text.Utf8
import ModuleAudit.Value.Basic
import ModuleAudit.Value.Json
import ModuleAudit.Value.Kind
import ModuleAudit.Value.Text
import ModuleAudit.Value.Time
import ModuleAudit.Value.Whole
import ModuleAudit.Yaml.Document
import ModuleAudit.Yaml.Graph
import ModuleAudit.Yaml.Kind
import ModuleAudit.Yaml.Merge
import ModuleAudit.Yaml.Number
import ModuleAudit.Yaml.Object
import ModuleAudit.Yaml.Scalar
import ModuleAudit.Yaml.Spot
import ModuleAudit.Yaml.Tag
import ModuleAudit.Yaml.Timestamp
import ModuleAudit.Yaml.Token
import ModuleAudit.Yaml.Unfolding
