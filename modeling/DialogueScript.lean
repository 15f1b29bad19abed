import DialogueScript.Checker
import DialogueScript.CommandLine.Options
import DialogueScript.CommandLine.Outcome
import DialogueScript.CommandLine.Reader
import DialogueScript.Diagnostic
import DialogueScript.Disk.Path
import DialogueScript.Disk.Tree
import DialogueScript.Json.Printer
import DialogueScript.Json.Reader
import DialogueScript.Json.Value
import DialogueScript.Line.Check
import DialogueScript.Line.Comment
import DialogueScript.Line.Dialogue
import DialogueScript.Line.Kind
import DialogueScript.Main
import DialogueScript.Number.Binary64
import DialogueScript.Number.Shortest
import DialogueScript.Proofs.Agreement
import DialogueScript.Proofs.Backtracking
import DialogueScript.Proofs.BrokenFiles
import DialogueScript.Proofs.Cap
import DialogueScript.Proofs.Checker
import DialogueScript.Proofs.ClientShape
import DialogueScript.Proofs.Columns
import DialogueScript.Proofs.Comment
import DialogueScript.Proofs.Concatenation
import DialogueScript.Proofs.Disk.Changes
import DialogueScript.Proofs.Disk.Names
import DialogueScript.Proofs.Disk.Places
import DialogueScript.Proofs.Disk.Ways
import DialogueScript.Proofs.Grammar
import DialogueScript.Proofs.Layers
import DialogueScript.Proofs.Line
import DialogueScript.Proofs.LineEndings
import DialogueScript.Proofs.Lines
import DialogueScript.Proofs.Margins
import DialogueScript.Proofs.Order
import DialogueScript.Proofs.Padding
import DialogueScript.Proofs.Pattern
import DialogueScript.Proofs.Rendering
import DialogueScript.Proofs.Reports
import DialogueScript.Proofs.Server.Documents
import DialogueScript.Proofs.Server.Freshness
import DialogueScript.Proofs.Server.Interleaving
import DialogueScript.Proofs.Server.Isolation
import DialogueScript.Proofs.Server.Lifecycle
import DialogueScript.Proofs.Server.Messages
import DialogueScript.Proofs.Server.Readings
import DialogueScript.Proofs.Server.Reload
import DialogueScript.Proofs.Server.Repetition
import DialogueScript.Proofs.Server.Settings
import DialogueScript.Proofs.Speech
import DialogueScript.Proofs.Startup
import DialogueScript.Proofs.Stripping
import DialogueScript.Proofs.Text
import DialogueScript.Proofs.Warning
import DialogueScript.Proofs.Watcher
import DialogueScript.Protocol.Call
import DialogueScript.Protocol.Capabilities
import DialogueScript.Protocol.Edit
import DialogueScript.Protocol.Encode
import DialogueScript.Protocol.Frame
import DialogueScript.Protocol.Message
import DialogueScript.Protocol.Params
import DialogueScript.Protocol.Shape
import DialogueScript.Script
import DialogueScript.Server.Documents
import DialogueScript.Server.Session
import DialogueScript.Server.State
import DialogueScript.Server.Stream
import DialogueScript.Settings.Client
import DialogueScript.Settings.File
import DialogueScript.Settings.Layers
import DialogueScript.Startup
import DialogueScript.Text.Blank
import DialogueScript.Text.Cut
import DialogueScript.Text.Digit
import DialogueScript.Text.Lines
import DialogueScript.Text.Quoted
import DialogueScript.Text.Units
import DialogueScript.Text.Utf8
import DialogueScript.Toml.Document
import DialogueScript.Toml.Scalar
import DialogueScript.Toml.Text
import DialogueScript.Toml.Value
import DialogueScript.Unicode.Composite
import DialogueScript.Unicode.Direction
import DialogueScript.Unicode.Joining
import DialogueScript.Unicode.Mark
import DialogueScript.Unicode.Normal
import DialogueScript.Unicode.Table
import DialogueScript.Unicode.Unprintable
import DialogueScript.Uri.Domain
import DialogueScript.Uri.DomainMapping
import DialogueScript.Uri.Host
import DialogueScript.Uri.Percent
import DialogueScript.Uri.Punycode
import DialogueScript.Uri.Reader
import DialogueScript.Watcher
