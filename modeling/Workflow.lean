import Workflow.Host.Basic
import Workflow.App.Address
import Workflow.Decimal.Binary
import Workflow.Decimal.Shortest
import Workflow.Decimal.Text
import Workflow.Json.Value
import Workflow.Decode.Fault
import Workflow.Decode.Class
import Workflow.Json.Read
import Workflow.Decode.Text
import Workflow.Json.Print
import Workflow.Text.Blank
import Workflow.Path.Basic
import Workflow.Path.Update
import Workflow.Path.Filter
import Workflow.Machine.Basic
import Workflow.Journal
import Workflow.Choice.Wildcard
import Workflow.Time.Timestamp
import Workflow.Choice.Rule
import Workflow.Task.Basic
import Workflow.Run.Error
import Workflow.Run.Context
import Workflow.Decimal.Parse
import Workflow.Run.Wait
import Workflow.Run.Execute
import Workflow.Run.Schedule
import Workflow.App.Server
import Workflow.Config.Basic
import Workflow.Queue.Request
import Workflow.Queue.Memory
import Workflow.Task.Registry
import Workflow.Queue.Service
import Workflow.Exec.Basic
import Workflow.Exec.Passthrough
import Workflow.Exec.Program
import Workflow.Shell.Programs
import Workflow.Shell.Script
import Workflow.Shell.Run
import Workflow.Task.Envelope
import Workflow.Task.Command
import Workflow.App.Site
import Workflow.Toml.Document
import Workflow.Toml.Reader
import Workflow.Toml.Grammar
import Workflow.Toml.Parse
import Workflow.Decode.Toml
import Workflow.Config.Decode
import Workflow.Config.Discovery
import Workflow.Toml.Print
import Workflow.Config.Print
import Workflow.Yaml.Token
import Workflow.Yaml.Scan
import Workflow.Yaml.Event
import Workflow.Yaml.Scalar
import Workflow.Decode.Yaml
import Workflow.Machine.Decode
import Workflow.Machine.Validate
import Workflow.Machine.File
import Workflow.App.Commands
import Workflow.App.Console
import Workflow.Cli.Similar
import Workflow.Cli.Spec
import Workflow.Cli.Parse
import Workflow.App.Program
import Workflow.Decode.Tree
import Workflow.Machine.Encode
import Workflow.Main
import Workflow.Proofs.Validation
import Workflow.Proofs.Turn
import Workflow.Proofs.ValidRuns
import Workflow.Proofs.Retries
import Workflow.Proofs.Termination
import Workflow.Proofs.JsonText
import Workflow.Proofs.JsonNumbers
import Workflow.Proofs.JsonValue
import Workflow.Proofs.TextDecoding
import Workflow.Proofs.DefinitionRoundTrip
import Workflow.Proofs.Endings
import Workflow.Proofs.Pipeline
import Workflow.Proofs.TextBytes
import Workflow.Proofs.HandlerProtocol
import Workflow.Proofs.PathWrites
import Workflow.Proofs.PathSyntax
import Workflow.Proofs.Templates
import Workflow.Proofs.GlobMatching
import Workflow.Proofs.QueueRetention
import Workflow.Proofs.ConfigLayers
import Workflow.Proofs.ConfigRoundTrip
import Workflow.Proofs.ArrayPadding
