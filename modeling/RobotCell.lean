import RobotCell.Command.Arguments
import RobotCell.Command.Help
import RobotCell.Command.Request
import RobotCell.Command.Run
import RobotCell.Controller.Description
import RobotCell.Controller.Discovery
import RobotCell.Controller.Mode
import RobotCell.Controller.ModuleScan
import RobotCell.Controller.Session
import RobotCell.Controller.Simulator
import RobotCell.Controller.Transport
import RobotCell.Controller.Uuid
import RobotCell.Controller.Value
import RobotCell.Controller.Workflow
import RobotCell.Data.Datum
import RobotCell.Data.Json
import RobotCell.Data.Overlay
import RobotCell.Data.Record
import RobotCell.Data.Toml.Document
import RobotCell.Data.Toml.Layout
import RobotCell.Data.Toml.Scalar
import RobotCell.Data.Toml.Section
import RobotCell.Exchange.Job
import RobotCell.Exchange.Pose
import RobotCell.Exchange.Records
import RobotCell.Exchange.Settings
import RobotCell.Exchange.Value
import RobotCell.Failure
import RobotCell.FileSystem
import RobotCell.Files
import RobotCell.Job
import RobotCell.LogLevel
import RobotCell.Main
import RobotCell.Motion.Catalog
import RobotCell.Motion.Literal
import RobotCell.Motion.Pose
import RobotCell.Number.Binary64
import RobotCell.Number.Decimal
import RobotCell.Number.Rounding
import RobotCell.Number.Shortest
import RobotCell.Number.Word
import RobotCell.Program.Broadcast
import RobotCell.Program.Compiler
import RobotCell.Program.Document
import RobotCell.Program.Records
import RobotCell.Program.Splice
import RobotCell.Program.Statement
import RobotCell.Settings.Basic
import RobotCell.Settings.Environment
import RobotCell.Settings.Load
import RobotCell.Text.Blank
import RobotCell.Text.Bytes
import RobotCell.Text.Escape
import RobotCell.Text.Printable
import RobotCell.Text.Word
import RobotCell.Tracking.Channel
import RobotCell.Tracking.Pointer
import RobotCell.Tracking.Recorder
import RobotCell.Tracking.Tracker
import RobotCell.Tracking.Window
import RobotCell.Proofs.Streaming.Ring
import RobotCell.Proofs.Session.Path
import RobotCell.Proofs.Session.History
import RobotCell.Proofs.Session.Script
import RobotCell.Proofs.Session.Step
import RobotCell.Proofs.Session.Mastership
import RobotCell.Proofs.Session.Lifecycle
import RobotCell.Proofs.Workflow.Operation
import RobotCell.Proofs.Workflow.Order
import RobotCell.Proofs.Workflow.Cleanup
import RobotCell.Proofs.Streaming.Ideal
import RobotCell.Proofs.Streaming.Supply
import RobotCell.Proofs.Program.Alignment
import RobotCell.Proofs.Number.ReadBack
import RobotCell.Proofs.Motion.ReadBack
import RobotCell.Proofs.Controller.Value
import RobotCell.Proofs.Controller.ModuleScan
import RobotCell.Proofs.Program.Assembly
import RobotCell.Proofs.Files
import RobotCell.Proofs.Program.Reading
import RobotCell.Proofs.Workflow.Simulated
import RobotCell.Proofs.Workflow.Deploy
import RobotCell.Proofs.Workflow.ItemWrite
import RobotCell.Proofs.Motion.Grammar
import RobotCell.Proofs.Program.Insertion
import RobotCell.Proofs.Workflow.Start
import RobotCell.Proofs.Controller.Rendering
import RobotCell.Proofs.Controller.Equality
import RobotCell.Proofs.Workflow.ItemReadBack
import RobotCell.Proofs.Program.Names
import RobotCell.Proofs.Controller.Effect
import RobotCell.Proofs.Controller.Atomicity
import RobotCell.Proofs.Session.Clients
import RobotCell.Proofs.Workflow.Redeploy
import RobotCell.Proofs.Controller.Spelling
import RobotCell.Proofs.Program.Finite
import RobotCell.Proofs.Program.Job
import RobotCell.Proofs.Program.Weave
import RobotCell.Proofs.Number.Distance
import RobotCell.Proofs.Motion.Nearest
import RobotCell.Proofs.Command.Compile
import RobotCell.Proofs.Tracking.Recorder
import RobotCell.Proofs.Tracking.Attachment
import RobotCell.Proofs.Tracking.Polling
import RobotCell.Proofs.Motion.RoundTrip
import RobotCell.Proofs.Program.Faults
import RobotCell.Proofs.Session.Scope
import RobotCell.Proofs.Settings.Validation
import RobotCell.Proofs.Streaming.Words
import RobotCell.Proofs.Program.Records
import RobotCell.Proofs.Program.Cycling
import RobotCell.Proofs.Controller.ModuleLines
import RobotCell.Proofs.Controller.ModulePatterns
import RobotCell.Proofs.Program.Xml
import RobotCell.Proofs.Program.Descriptor
import RobotCell.Proofs.Data.Overlay
import RobotCell.Proofs.Settings.Environment
import RobotCell.Proofs.Settings.Setting
import RobotCell.Proofs.Settings.Override
