import DeployBoard.Catalog
import DeployBoard.Client
import DeployBoard.ClientError
import DeployBoard.Command
import DeployBoard.CommandLine
import DeployBoard.Completion
import DeployBoard.Dashboard.Plan
import DeployBoard.Dashboard.State
import DeployBoard.FileTree
import DeployBoard.Http.Backend
import DeployBoard.Http.Charset
import DeployBoard.Http.Library
import DeployBoard.Http.Message
import DeployBoard.Http.Response
import DeployBoard.Http.Status
import DeployBoard.Http.Wire
import DeployBoard.Index.Encoding
import DeployBoard.Index.Filter
import DeployBoard.Index.Record
import DeployBoard.Index.Terms
import DeployBoard.Json.Text
import DeployBoard.Json.Value
import DeployBoard.Keyboard
import DeployBoard.LineCommand
import DeployBoard.LineMode
import DeployBoard.Main
import DeployBoard.Overflow
import DeployBoard.Poller
import DeployBoard.Program
import DeployBoard.Query
import DeployBoard.Screen.Canvas
import DeployBoard.Screen.InputBox
import DeployBoard.Screen.Listing
import DeployBoard.Screen.Style
import DeployBoard.Screen.Text
import DeployBoard.Session.Basic
import DeployBoard.Session.Keys
import DeployBoard.Session.View
import DeployBoard.Settings.Basic
import DeployBoard.Settings.DotEnv
import DeployBoard.Settings.File
import DeployBoard.Settings.Merge
import DeployBoard.Settings.Search
import DeployBoard.TagPicker
import DeployBoard.Text.Blank
import DeployBoard.Text.CaseTable
import DeployBoard.Text.Cluster
import DeployBoard.Text.ClusterTable
import DeployBoard.Text.CodeRange
import DeployBoard.Text.Lines
import DeployBoard.Text.Lowercase
import DeployBoard.Text.Numeral
import DeployBoard.Text.Occurrence
import DeployBoard.Text.PrintableTable
import DeployBoard.Text.Quoted
import DeployBoard.Text.Utf8
import DeployBoard.Text.Width
import DeployBoard.Text.WidthTable
import DeployBoard.TextBox.Bindings
import DeployBoard.TextBox.Edit
import DeployBoard.TextBox.Lines
import DeployBoard.TextBox.Motion
import DeployBoard.TextBox.Word
import DeployBoard.Theme
import DeployBoard.Toml.Document
import DeployBoard.Toml.Number
import DeployBoard.Toml.Table
import DeployBoard.Toml.Text
import DeployBoard.Url.Basic
import DeployBoard.Url.Domain
import DeployBoard.Url.Host
import DeployBoard.Url.NameTable
import DeployBoard.Url.Percent
import DeployBoard.Url.Punycode
import DeployBoard.Proofs.Dashboard.Run
import DeployBoard.Proofs.Session.Run
import DeployBoard.Proofs.View
import DeployBoard.Proofs.Dashboard.History
import DeployBoard.Proofs.Dashboard.Stack
import DeployBoard.Proofs.Dashboard.Rollback
import DeployBoard.Proofs.Dashboard.Ownership
import DeployBoard.Proofs.Dashboard.Ledger
import DeployBoard.Proofs.Dashboard.Cursor
import DeployBoard.Proofs.Dashboard.Pickers
import DeployBoard.Proofs.Session.Selection
import DeployBoard.Proofs.TextBox.Places
import DeployBoard.Proofs.TextBox.Sound
import DeployBoard.Proofs.TextBox.Clear
import DeployBoard.Proofs.Session.SearchBox
import DeployBoard.Proofs.Json.Text
import DeployBoard.Proofs.Text.Utf8
import DeployBoard.Proofs.Url.Percent
import DeployBoard.Proofs.Url.Segments
import DeployBoard.Proofs.Url.Prefix
import DeployBoard.Proofs.Client.Endpoint
import DeployBoard.Proofs.Client.Requests
import DeployBoard.Proofs.Json.Grammar
import DeployBoard.Proofs.Index.Encoding
import DeployBoard.Proofs.Dashboard.Tags
import DeployBoard.Proofs.Session.Picker
import DeployBoard.Proofs.Session.Escape
import DeployBoard.Proofs.Dashboard.Step
import DeployBoard.Proofs.Text.Lowercase
import DeployBoard.Proofs.Dashboard.Messages
import DeployBoard.Proofs.Dashboard.Numbers
import DeployBoard.Proofs.Text.Blank
import DeployBoard.Proofs.Query
import DeployBoard.Proofs.LineMode
import DeployBoard.Proofs.Index.Filter
import DeployBoard.Proofs.Session.Suggestions
import DeployBoard.Proofs.Completion
import DeployBoard.Proofs.Completion.Highlight
import DeployBoard.Proofs.Text.Neighbours
import DeployBoard.Proofs.Session.Popup
import DeployBoard.Proofs.Session.Chips
import DeployBoard.Proofs.TextBox.Refill
import DeployBoard.Proofs.Session.TagBox
import DeployBoard.Proofs.Dashboard.Frame
import DeployBoard.Proofs.Client.Replies
import DeployBoard.Proofs.Url.Trailing
import DeployBoard.Proofs.Client.Prefix
import DeployBoard.Proofs.Client.Sent
import DeployBoard.Proofs.LineMode.Run
import DeployBoard.Proofs.Settings.Search
import DeployBoard.Proofs.TagPicker
import DeployBoard.Proofs.Dashboard.Cycling
import DeployBoard.Proofs.Poller
import DeployBoard.Proofs.Json.Soundness
import DeployBoard.Proofs.Index.Spellings
import DeployBoard.Proofs.Dashboard.Search
import DeployBoard.Proofs.Text.Parts
import DeployBoard.Proofs.Text.Words
import DeployBoard.Proofs.LineCommand
import DeployBoard.Proofs.Text.Width
import DeployBoard.Proofs.Dashboard.Plan
import DeployBoard.Proofs.Index.Vocabulary
import DeployBoard.Proofs.TagPicker.Composition
import DeployBoard.Proofs.Dashboard.StepSize
import DeployBoard.Proofs.Text.Numeral
import DeployBoard.Proofs.Session.PopupArea
import DeployBoard.Proofs.Settings.Merge
