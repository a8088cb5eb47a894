import AmountPad.Action
import AmountPad.Action.Json
import AmountPad.Amount
import AmountPad.Amount.Json
import AmountPad.Button
import AmountPad.Decimal.Shortest
import AmountPad.Failure
import AmountPad.Files
import AmountPad.Frontend
import AmountPad.Json.Fault
import AmountPad.Json.Number
import AmountPad.Json.Reader
import AmountPad.Json.Token
import AmountPad.Json.Writer
import AmountPad.Layout
import AmountPad.Log
import AmountPad.Log.Filter
import AmountPad.Log.Pattern
import AmountPad.Main
import AmountPad.Page.Bound
import AmountPad.Page.Document
import AmountPad.Page.Element
import AmountPad.Page.Keypad
import AmountPad.Page.View
import AmountPad.Program.Arguments
import AmountPad.Program.CommandLine
import AmountPad.Program.Host
import AmountPad.Program.Run
import AmountPad.Proofs.Editing
import AmountPad.Proofs.Entry
import AmountPad.Proofs.Frontend
import AmountPad.Proofs.Growth
import AmountPad.Proofs.Json.Field
import AmountPad.Proofs.Json.Grammar
import AmountPad.Proofs.Json.Meaning
import AmountPad.Proofs.Json.Reader
import AmountPad.Proofs.Json.RoundTrip
import AmountPad.Proofs.Json.Token
import AmountPad.Proofs.Keyboard
import AmountPad.Proofs.Layout
import AmountPad.Proofs.Layout.FirstFlaw
import AmountPad.Proofs.Layout.Grid
import AmountPad.Proofs.Layout.Lookup
import AmountPad.Proofs.Page.Binding
import AmountPad.Proofs.Page.Frame
import AmountPad.Proofs.Page.InnerText
import AmountPad.Proofs.Page.Insertion
import AmountPad.Proofs.Page.Keypad
import AmountPad.Proofs.Page.Lookup
import AmountPad.Proofs.Page.Mirror
import AmountPad.Proofs.Page.Order
import AmountPad.Proofs.Page.Reproduction
import AmountPad.Proofs.Page.Resolution
import AmountPad.Proofs.Page.Table
import AmountPad.Proofs.Page.Tree
import AmountPad.Proofs.Page.View
import AmountPad.Proofs.Replay
import AmountPad.Proofs.Reset
import AmountPad.Proofs.Restart
import AmountPad.Proofs.Settings
import AmountPad.Proofs.Terminal.App
import AmountPad.Proofs.Terminal.ButtonGrid
import AmountPad.Proofs.Terminal.Click
import AmountPad.Proofs.Terminal.Coordinates
import AmountPad.Proofs.Terminal.Display
import AmountPad.Proofs.Terminal.Grid
import AmountPad.Proofs.Terminal.Keypad
import AmountPad.Proofs.Terminal.Moves
import AmountPad.Proofs.Terminal.Picture
import AmountPad.Proofs.Terminal.Plates
import AmountPad.Proofs.Terminal.Routes
import AmountPad.Proofs.Terminal.Session
import AmountPad.Proofs.Terminal.WordKeypad
import AmountPad.Proofs.Terminal.Writing
import AmountPad.Proofs.Text.Printable
import AmountPad.Proofs.Yaml.Cursor
import AmountPad.Proofs.Yaml.Document
import AmountPad.Proofs.Yaml.Event
import AmountPad.Proofs.Yaml.Hop
import AmountPad.Proofs.Yaml.Key
import AmountPad.Proofs.Yaml.Progress
import AmountPad.Proofs.Yaml.Reader
import AmountPad.Proofs.Yaml.RoundTrip
import AmountPad.Proofs.Yaml.Scalar.Block
import AmountPad.Proofs.Yaml.Scalar.Escape
import AmountPad.Proofs.Yaml.Scalar.Plain
import AmountPad.Proofs.Yaml.Scalar.Quoted
import AmountPad.Proofs.Yaml.Text
import AmountPad.Proofs.Yaml.TokenList
import AmountPad.Replay
import AmountPad.Scenario
import AmountPad.Settings
import AmountPad.Settings.File
import AmountPad.Settings.Json
import AmountPad.Settings.Yaml
import AmountPad.Terminal.App
import AmountPad.Terminal.Display
import AmountPad.Terminal.Grid
import AmountPad.Terminal.KeyPress
import AmountPad.Terminal.Keypad
import AmountPad.Terminal.Panel
import AmountPad.Terminal.Rect
import AmountPad.Terminal.Report
import AmountPad.Terminal.Screen
import AmountPad.Terminal.Session
import AmountPad.Terminal.Word
import AmountPad.Terminal.Writing
import AmountPad.Text.Blank
import AmountPad.Text.CharSet
import AmountPad.Text.Cluster
import AmountPad.Text.Columns
import AmountPad.Text.Hex
import AmountPad.Text.Paint
import AmountPad.Text.Property.Cluster
import AmountPad.Text.Property.Emoji
import AmountPad.Text.Property.Letter
import AmountPad.Text.Property.Visible
import AmountPad.Text.Property.Width
import AmountPad.Text.Visible
import AmountPad.Yaml.Cursor
import AmountPad.Yaml.Document
import AmountPad.Yaml.Event
import AmountPad.Yaml.Fault
import AmountPad.Yaml.Reader
import AmountPad.Yaml.Resolve
import AmountPad.Yaml.Scalar.Block
import AmountPad.Yaml.Scalar.Gap
import AmountPad.Yaml.Scalar.Plain
import AmountPad.Yaml.Scalar.Quoted
import AmountPad.Yaml.Tag
import AmountPad.Yaml.Token
import AmountPad.Yaml.TokenList
import AmountPad.Yaml.Writer
