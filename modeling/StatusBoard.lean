import StatusBoard.Board.Basic
import StatusBoard.Board.Loop
import StatusBoard.Board.Ticker
import StatusBoard.Cadence
import StatusBoard.Calendar
import StatusBoard.Canvas.Basic
import StatusBoard.Canvas.Draw
import StatusBoard.Canvas.Rect
import StatusBoard.Canvas.Tone
import StatusBoard.CommandLine.Invocation
import StatusBoard.CommandLine.Outcome
import StatusBoard.CommandLine.Session
import StatusBoard.CommandLine.Switch
import StatusBoard.CommandLine.Usage
import StatusBoard.Compose
import StatusBoard.Config.Basic
import StatusBoard.Config.Document
import StatusBoard.Config.Environment
import StatusBoard.Config.Load
import StatusBoard.Config.Render
import StatusBoard.Devices.Consoles
import StatusBoard.Devices.Input
import StatusBoard.Devices.Output
import StatusBoard.Fault
import StatusBoard.Frame.Basic
import StatusBoard.Frame.Facts
import StatusBoard.Frame.Footer
import StatusBoard.Json.Magnitude
import StatusBoard.Json.Order
import StatusBoard.Json.Printer
import StatusBoard.Json.Reader
import StatusBoard.Json.Strict
import StatusBoard.Json.Token
import StatusBoard.Json.Value
import StatusBoard.Log.Body
import StatusBoard.Log.Event
import StatusBoard.Log.Filter
import StatusBoard.Log.Markers
import StatusBoard.Log.Severity
import StatusBoard.Log.Sink
import StatusBoard.Log.Wrap
import StatusBoard.Main
import StatusBoard.Modal
import StatusBoard.NameMap
import StatusBoard.Pages
import StatusBoard.Path
import StatusBoard.Shutdown
import StatusBoard.Source.Addresses
import StatusBoard.Source.Applications
import StatusBoard.Source.File
import StatusBoard.Source.Readings
import StatusBoard.Source.Release
import StatusBoard.Source.Surroundings
import StatusBoard.Stream
import StatusBoard.Terminal.Command
import StatusBoard.Terminal.Geometry
import StatusBoard.Terminal.Screen
import StatusBoard.Terminal.Theme
import StatusBoard.Text.Alphanumeric
import StatusBoard.Text.Blank
import StatusBoard.Text.CharSet
import StatusBoard.Text.Magnitude
import StatusBoard.Text.Numeral
import StatusBoard.Text.Pattern
import StatusBoard.Text.Pattern.Atom
import StatusBoard.Text.Pattern.Bracket
import StatusBoard.Text.Quoted
import StatusBoard.Text.Quoted.Table
import StatusBoard.Text.Utf8
import StatusBoard.Text.Width
import StatusBoard.Text.Width.Table
import StatusBoard.Toml.Printer
import StatusBoard.Toml.Reader
import StatusBoard.Toml.Scalar
import StatusBoard.Toml.Space
import StatusBoard.Toml.Strict
import StatusBoard.Toml.Table
import StatusBoard.Toml.Text
import StatusBoard.Toml.Value
import StatusBoard.Proofs.Canvas.Overlap
import StatusBoard.Proofs.Canvas.Drawing
import StatusBoard.Proofs.Log.Wrapping
import StatusBoard.Proofs.Composing
import StatusBoard.Proofs.Terminal.Display
import StatusBoard.Proofs.Terminal.Reading
import StatusBoard.Proofs.Terminal.Painting
import StatusBoard.Proofs.Terminal.Sending
import StatusBoard.Proofs.Terminal.Repaint
import StatusBoard.Proofs.Terminal.Recovery
import StatusBoard.Proofs.Board.Interleaving
import StatusBoard.Proofs.Board.Requests
import StatusBoard.Proofs.Log.Assembly
import StatusBoard.Proofs.Text.Cutting
import StatusBoard.Proofs.Log.Chunking
import StatusBoard.Proofs.Log.Delivery
import StatusBoard.Proofs.Terminal.Control
import StatusBoard.Proofs.Devices.Wall
import StatusBoard.Proofs.Devices.Isolation
import StatusBoard.Proofs.Terminal.Reset
import StatusBoard.Proofs.Canvas.Covering
import StatusBoard.Proofs.Canvas.Region
import StatusBoard.Proofs.Pages
import StatusBoard.Proofs.Masking
import StatusBoard.Proofs.Board.Clearing
import StatusBoard.Proofs.Canvas.Extent
import StatusBoard.Proofs.Board.Fitting
import StatusBoard.Proofs.Board.Freshness
import StatusBoard.Proofs.CommandLine.Restoring
import StatusBoard.Proofs.Toml.Spelling
import StatusBoard.Proofs.Toml.Values
import StatusBoard.Proofs.Toml.Documents
import StatusBoard.Proofs.Config.Checks
import StatusBoard.Proofs.Cadence
import StatusBoard.Proofs.Config.Reloading
import StatusBoard.Proofs.Shares
import StatusBoard.Proofs.Devices.Gathering
import StatusBoard.Proofs.Text.Measuring
import StatusBoard.Proofs.Text.Words
import StatusBoard.Proofs.Frame.Footing
import StatusBoard.Proofs.Log.Breaking
import StatusBoard.Proofs.Canvas.Lettering
import StatusBoard.Proofs.Canvas.Outline
import StatusBoard.Proofs.Canvas.Inscription
import StatusBoard.Proofs.Dialog
import StatusBoard.Proofs.Frame.Stacking
import StatusBoard.Proofs.Log.Ending
import StatusBoard.Proofs.Frame.Pane
import StatusBoard.Proofs.Frame.HeaderRow
import StatusBoard.Proofs.Terminal.Corner
import StatusBoard.Proofs.Frame.Labels
import StatusBoard.Proofs.Source.Release
import StatusBoard.Proofs.Text.Digits
import StatusBoard.Proofs.Json.Scanning
import StatusBoard.Proofs.Json.Writing
import StatusBoard.Proofs.Json.Reading
import StatusBoard.Proofs.Source.Applications
import StatusBoard.Proofs.Config.Canonical
import StatusBoard.Proofs.Board.Reporting
import StatusBoard.Proofs.Board.Feedback
import StatusBoard.Proofs.Canvas.Overlay
import StatusBoard.Proofs.Canvas.Columns
import StatusBoard.Proofs.Log.Trailing
