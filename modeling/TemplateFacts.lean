import TemplateFacts.Application
import TemplateFacts.Binary64.Basic
import TemplateFacts.Binary64.Read
import TemplateFacts.Binary64.Text
import TemplateFacts.CommandLine.Basic
import TemplateFacts.CommandLine.Flag
import TemplateFacts.CommandLine.Given
import TemplateFacts.CommandLine.Reader
import TemplateFacts.Compiler.Answer
import TemplateFacts.Compiler.Client
import TemplateFacts.Compiler.Question
import TemplateFacts.Compiler.Recorded
import TemplateFacts.Compiler.Script
import TemplateFacts.Contract.Basic
import TemplateFacts.Contract.Bundled
import TemplateFacts.Contract.Check
import TemplateFacts.Contract.Document
import TemplateFacts.Contract.Fault
import TemplateFacts.Contract.Format
import TemplateFacts.Contract.Matcher
import TemplateFacts.Contract.Meta
import TemplateFacts.Contract.Pattern.Basic
import TemplateFacts.Contract.Pattern.ClassTree
import TemplateFacts.Contract.Pattern.Expression
import TemplateFacts.Contract.Pattern.Machine
import TemplateFacts.Contract.Pattern.Program
import TemplateFacts.Contract.Pattern.Reader
import TemplateFacts.Contract.Pattern.Screen
import TemplateFacts.Contract.Registry
import TemplateFacts.Contract.Schema
import TemplateFacts.Error
import TemplateFacts.Facts.Assembly
import TemplateFacts.Facts.Capabilities
import TemplateFacts.Facts.Modules
import TemplateFacts.Facts.Parameters
import TemplateFacts.Facts.Record
import TemplateFacts.Facts.Template
import TemplateFacts.FileTree.Basic
import TemplateFacts.FileTree.Operation
import TemplateFacts.FileTree.Replace
import TemplateFacts.FileTree.Walk
import TemplateFacts.Generation
import TemplateFacts.Host.Basic
import TemplateFacts.Host.Description
import TemplateFacts.Json.Basic
import TemplateFacts.Json.Cursor
import TemplateFacts.Json.Fault
import TemplateFacts.Json.Lexeme
import TemplateFacts.Json.Reader
import TemplateFacts.Json.Shape
import TemplateFacts.Json.Writer
import TemplateFacts.Main
import TemplateFacts.Path
import TemplateFacts.Proofs.Binary64.Numeral
import TemplateFacts.Proofs.Compiler.Answer
import TemplateFacts.Proofs.Compiler.Described
import TemplateFacts.Proofs.Contract.Apart
import TemplateFacts.Proofs.Contract.Bundled
import TemplateFacts.Proofs.Contract.Demands
import TemplateFacts.Proofs.Contract.Meaning
import TemplateFacts.Proofs.Contract.Pattern
import TemplateFacts.Proofs.Contract.Transcribed
import TemplateFacts.Proofs.Facts.Conformance
import TemplateFacts.Proofs.Facts.Declarations
import TemplateFacts.Proofs.Facts.Majority
import TemplateFacts.Proofs.Facts.Order
import TemplateFacts.Proofs.Facts.Reordered
import TemplateFacts.Proofs.Facts.ReorderedTemplate
import TemplateFacts.Proofs.Facts.Resolution
import TemplateFacts.Proofs.Facts.Resources
import TemplateFacts.Proofs.FileTree.Alike
import TemplateFacts.Proofs.FileTree.Atomic
import TemplateFacts.Proofs.FileTree.Attempt
import TemplateFacts.Proofs.FileTree.Lookup
import TemplateFacts.Proofs.FileTree.Making
import TemplateFacts.Proofs.FileTree.Operation
import TemplateFacts.Proofs.FileTree.Passes
import TemplateFacts.Proofs.FileTree.Place
import TemplateFacts.Proofs.FileTree.Proper
import TemplateFacts.Proofs.FileTree.Relisted
import TemplateFacts.Proofs.FileTree.Replace
import TemplateFacts.Proofs.FileTree.Replay
import TemplateFacts.Proofs.FileTree.Temporary
import TemplateFacts.Proofs.FileTree.Way
import TemplateFacts.Proofs.Generation.Account
import TemplateFacts.Proofs.Generation.Frame
import TemplateFacts.Proofs.Generation.Gate
import TemplateFacts.Proofs.Generation.Rerun
import TemplateFacts.Proofs.Generation.Stamp
import TemplateFacts.Proofs.Generation.Turns
import TemplateFacts.Proofs.Json.Canonical
import TemplateFacts.Proofs.Json.Compact
import TemplateFacts.Proofs.Json.Cursor
import TemplateFacts.Proofs.Json.Grammar
import TemplateFacts.Proofs.Json.Number
import TemplateFacts.Proofs.Json.Reader
import TemplateFacts.Proofs.Json.Record
import TemplateFacts.Proofs.Json.Text
import TemplateFacts.Proofs.Json.Token
import TemplateFacts.Proofs.Json.Writer
import TemplateFacts.Proofs.Json.Written
import TemplateFacts.Proofs.Json.WrittenRecord
import TemplateFacts.Proofs.Json.WrittenShape
import TemplateFacts.Proofs.Json.Yield
import TemplateFacts.Proofs.NonObject
import TemplateFacts.Proofs.Outcome
import TemplateFacts.Proofs.Path
import TemplateFacts.Proofs.Path.Absolute
import TemplateFacts.Proofs.Path.Components
import TemplateFacts.Proofs.Path.Rejoined
import TemplateFacts.Proofs.Path.Relative
import TemplateFacts.Proofs.Path.Trail
import TemplateFacts.Proofs.Scan
import TemplateFacts.Proofs.Scan.Exact
import TemplateFacts.Proofs.Scan.Found
import TemplateFacts.Proofs.Scan.Rescan
import TemplateFacts.Proofs.Session.Captured
import TemplateFacts.Proofs.Session.Custody
import TemplateFacts.Proofs.Session.Diagnosed
import TemplateFacts.Proofs.Settings.Environment
import TemplateFacts.Proofs.Settings.Layered
import TemplateFacts.Proofs.Settings.Stack
import TemplateFacts.Proofs.Settings.Verbatim
import TemplateFacts.Proofs.SourceFile
import TemplateFacts.Proofs.SourceFile.Inside
import TemplateFacts.Proofs.Text.Blank
import TemplateFacts.Proofs.Text.Decimal
import TemplateFacts.Proofs.Text.Split
import TemplateFacts.Proofs.Timestamp
import TemplateFacts.Proofs.Utf8
import TemplateFacts.Proofs.Utf8.Head
import TemplateFacts.Proofs.Utf8.Split
import TemplateFacts.Proofs.Wire.Alike
import TemplateFacts.Proofs.Wire.Answered
import TemplateFacts.Proofs.Wire.Correlation
import TemplateFacts.Proofs.Wire.Cut
import TemplateFacts.Proofs.Wire.Delivered
import TemplateFacts.Proofs.Wire.Ending
import TemplateFacts.Proofs.Wire.Fault
import TemplateFacts.Proofs.Wire.Framing
import TemplateFacts.Proofs.Wire.Grammar
import TemplateFacts.Proofs.Wire.Intake
import TemplateFacts.Proofs.Wire.Legible
import TemplateFacts.Proofs.Wire.Life
import TemplateFacts.Proofs.Wire.Message
import TemplateFacts.Proofs.Wire.Noise
import TemplateFacts.Proofs.Wire.Once
import TemplateFacts.Proofs.Wire.Order
import TemplateFacts.Proofs.Wire.Progress
import TemplateFacts.Proofs.Wire.Received
import TemplateFacts.Proofs.Wire.Rest
import TemplateFacts.Proofs.Wire.Sent
import TemplateFacts.Proofs.Wire.Smooth
import TemplateFacts.Proofs.Wire.Spoken
import TemplateFacts.Proofs.Wire.Truncation
import TemplateFacts.Proofs.Wire.Turns
import TemplateFacts.Proofs.Wire.View
import TemplateFacts.Proofs.Wire.Waiters
import TemplateFacts.Scan
import TemplateFacts.Session.Basic
import TemplateFacts.Session.Endpoint
import TemplateFacts.Session.Live
import TemplateFacts.Session.Process
import TemplateFacts.Settings.Basic
import TemplateFacts.Settings.Convert
import TemplateFacts.Settings.Fault
import TemplateFacts.Settings.Key
import TemplateFacts.Settings.Layers
import TemplateFacts.Settings.Value
import TemplateFacts.Sha256
import TemplateFacts.SourceFile
import TemplateFacts.Text.Address
import TemplateFacts.Text.Blank
import TemplateFacts.Text.Case
import TemplateFacts.Text.CaseTable
import TemplateFacts.Text.CategoryTable
import TemplateFacts.Text.CharClass
import TemplateFacts.Text.Digits
import TemplateFacts.Text.FoldTable
import TemplateFacts.Text.Lines
import TemplateFacts.Text.NamedClass
import TemplateFacts.Text.PrintableTable
import TemplateFacts.Text.PropertyTable
import TemplateFacts.Text.Quoted
import TemplateFacts.Text.ScriptTable
import TemplateFacts.Timestamp
import TemplateFacts.Toml.DateTime
import TemplateFacts.Toml.Lexeme
import TemplateFacts.Toml.Number
import TemplateFacts.Toml.Reader
import TemplateFacts.Toml.Section
import TemplateFacts.Uri.Basic
import TemplateFacts.Uri.Reader
import TemplateFacts.Uri.Resolve
import TemplateFacts.Utf8
import TemplateFacts.Wire.Connection
import TemplateFacts.Wire.Exchange
import TemplateFacts.Wire.Frame
import TemplateFacts.Wire.Message
