import TaskBrowser.Main
import TaskBrowser.Proofs.Template.Parts
import TaskBrowser.Proofs.Template.Written
import TaskBrowser.Proofs.Template.RoundTrip
import TaskBrowser.Proofs.Effect
import TaskBrowser.Proofs.Session.Loading
import TaskBrowser.Proofs.Session.Change
import TaskBrowser.Proofs.Session.Operations
import TaskBrowser.Proofs.Command.Setting
import TaskBrowser.Proofs.Command.Steps
import TaskBrowser.Proofs.Record.Order
import TaskBrowser.Proofs.Session.Reachable
import TaskBrowser.Proofs.Color.Remembered
import TaskBrowser.Proofs.Session.Crash
import TaskBrowser.Proofs.Color.Palette
import TaskBrowser.Proofs.Command.Crash
import TaskBrowser.Proofs.Record.Ranking
import TaskBrowser.Proofs.Record.StableSort
import TaskBrowser.Proofs.Record.Modes
import TaskBrowser.Proofs.Session.Selection
import TaskBrowser.Proofs.Session.Reloading
import TaskBrowser.Proofs.Text.Case
import TaskBrowser.Proofs.Color.Grammar
import TaskBrowser.Proofs.Color.History
import TaskBrowser.Proofs.Command.Line
import TaskBrowser.Proofs.Session.Failing
import TaskBrowser.Proofs.Session.Filtering
import TaskBrowser.Proofs.Session.Asking
import TaskBrowser.Proofs.Session.Refreshing
import TaskBrowser.Proofs.Session.Compiled
import TaskBrowser.Proofs.Session.Settling
import TaskBrowser.Proofs.Session.Following
import TaskBrowser.Proofs.Session.Ordering
import TaskBrowser.Proofs.Session.Listed
import TaskBrowser.Proofs.Command.Guarded
import TaskBrowser.Proofs.Text.Lines
import TaskBrowser.Proofs.Json.Reading
import TaskBrowser.Proofs.Export.Layout
import TaskBrowser.Proofs.Template.Width
import TaskBrowser.Proofs.Files.Following
import TaskBrowser.Proofs.Session.Starting
import TaskBrowser.Proofs.CommandLine.Settings
import TaskBrowser.Proofs.CommandLine.Printing
import TaskBrowser.Proofs.CommandLine.Ending
import TaskBrowser.Proofs.Session.Searching
import TaskBrowser.Proofs.Calendar.DayNumber
import TaskBrowser.Proofs.Text.Decimal
import TaskBrowser.Proofs.Number.Whole
import TaskBrowser.Proofs.Calendar.Compact
import TaskBrowser.Proofs.Calendar.Reading
import TaskBrowser.Proofs.Calendar.Showing
import TaskBrowser.Proofs.Color.Numbering
import TaskBrowser.Proofs.Color.Unset
import TaskBrowser.Proofs.Screen.Window
import TaskBrowser.Proofs.Template.Aligning
import TaskBrowser.Proofs.Template.Characters
import TaskBrowser.Proofs.Screen.Rows
import TaskBrowser.Proofs.Screen.TaskRows
import TaskBrowser.Proofs.Command.Rejected
import TaskBrowser.Proofs.Color.Usable
import TaskBrowser.Proofs.Template.Slots
import TaskBrowser.Proofs.Session.Columns
import TaskBrowser.Proofs.Text.Separator
import TaskBrowser.Proofs.Template.Margins
import TaskBrowser.Proofs.Variable
import TaskBrowser.Proofs.Template.Shape
import TaskBrowser.Proofs.Command.Quoted
