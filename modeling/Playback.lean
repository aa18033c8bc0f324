import Playback.CommandLine.Command
import Playback.CommandLine.Flags
import Playback.CommandLine.Grammar
import Playback.CommandLine.Launch
import Playback.Config.Basic
import Playback.Config.Load
import Playback.Console.Report
import Playback.Console.Style
import Playback.Console.Table
import Playback.Dict
import Playback.Document
import Playback.Event
import Playback.Instant
import Playback.Json.Reader
import Playback.Json.Value
import Playback.Main
import Playback.Number.Binary64
import Playback.Number.Numeral
import Playback.Number.Shortest
import Playback.Page.Basic
import Playback.Page.Locator
import Playback.Passcode.Acquire
import Playback.Passcode.Basic
import Playback.Passcode.Reply
import Playback.Placeholder
import Playback.Proofs.Handler.Discipline
import Playback.Proofs.Handler.Report
import Playback.Proofs.Interpreter.Course
import Playback.Proofs.Routine.Transcript
import Playback.Run.Attempt
import Playback.Run.Call
import Playback.Run.Handler.Assert
import Playback.Run.Handler.Basic
import Playback.Run.Handler.Change
import Playback.Run.Handler.Click
import Playback.Run.Handler.Navigate
import Playback.Run.Handler.Passcode
import Playback.Run.Handler.Registry
import Playback.Run.Handler.Wait
import Playback.Run.Interpreter
import Playback.Run.Ledger
import Playback.Run.Observer
import Playback.Run.Resolve
import Playback.Run.Routine
import Playback.Run.Session
import Playback.Script.Basic
import Playback.Script.Files
import Playback.Script.Library
import Playback.Script.Report
import Playback.Server.Address
import Playback.Server.Hub
import Playback.Server.Registry
import Playback.Server.Request
import Playback.Server.Trigger
import Playback.Simulation.Crowd
import Playback.Simulation.Scene
import Playback.Simulation.Solo
import Playback.Span
import Playback.Step.Action
import Playback.Step.Record
import Playback.Text.Base64
import Playback.Text.Blank
import Playback.Text.Width
import Playback.Toml.Load
import Playback.Toml.Scalar
import Playback.Toml.Table
import Playback.Wire.Config
import Playback.Wire.Decode
import Playback.Wire.Event
import Playback.Wire.Script
import Playback.Wire.Step
import Playback.Yaml.Cursor
import Playback.Yaml.Event
import Playback.Yaml.Load
import Playback.Yaml.Resolve
import Playback.Yaml.ScalarText
import Playback.Yaml.Token
import Playback.Yaml.TokenStream
import Playback.Proofs.Interpreter.Grammar
import Playback.Proofs.Ledger.Latest
import Playback.Proofs.Session.Course
import Playback.Proofs.Session.Verdict
import Playback.Proofs.Routine.Surroundings
import Playback.Proofs.Interpreter.Conduct
import Playback.Proofs.Session.Cancellation
import Playback.Proofs.Session.Lifecycle
import Playback.Proofs.Interpreter.Turn
import Playback.Proofs.Interpreter.Truncation
import Playback.Proofs.Handler.Contract
import Playback.Proofs.Ledger.Tally
import Playback.Proofs.Interpreter.Stream
import Playback.Proofs.Session.Account
import Playback.Proofs.Placeholder.Dependence
import Playback.Proofs.Interpreter.Data
import Playback.Proofs.Server.Registry
import Playback.Proofs.Server.Requests
import Playback.Proofs.Server.Sessions
import Playback.Proofs.Server.Service
import Playback.Proofs.Server.Delivery
import Playback.Proofs.Passcode.Acquisition
import Playback.Proofs.Handler.Passcode
import Playback.Proofs.Passcode.Entry
import Playback.Proofs.Interpreter.Selectors
import Playback.Proofs.Routine.Setting
import Playback.Proofs.Interpreter.Unhandled
import Playback.Proofs.Routine.Alike
import Playback.Proofs.Handler.Alike
import Playback.Proofs.Handler.Pictures
import Playback.Proofs.Session.BestEffort
import Playback.Proofs.Json.Numeral
import Playback.Proofs.Json.Quote
import Playback.Proofs.Json.RoundTrip
import Playback.Proofs.Wire.Record
import Playback.Proofs.Handler.Details
import Playback.Proofs.Routine.Observed
import Playback.Proofs.Session.Observers
import Playback.Proofs.Wire.Order
import Playback.Proofs.Wire.Step
import Playback.Proofs.Wire.Decoded
import Playback.Proofs.Wire.RoundTrip
import Playback.Proofs.Handler.Element
import Playback.Proofs.Handler.Assertion
import Playback.Proofs.Passcode.Polling
import Playback.Proofs.Passcode.Window
import Playback.Proofs.Placeholder.Simultaneous
import Playback.Proofs.Placeholder.Twice
import Playback.Proofs.Script.Precedence
import Playback.Proofs.Script.Lint
import Playback.Proofs.Ledger.Folding
import Playback.Proofs.Script.Lookup
import Playback.Proofs.Server.Rejection
import Playback.Proofs.Server.Simulated
import Playback.Proofs.Passcode.Fields
import Playback.Proofs.Script.Paths
import Playback.Proofs.Script.Shelf
import Playback.Proofs.Script.Shapes
import Playback.Proofs.Config.Words
import Playback.Proofs.Config.Layers
